/-!
# Linkage

The calling convention of a declaration, which is also the scheme of its name in the object file.
-/

namespace Declarations

inductive Linkage where
  | d
  | c
  | cpp
  | windows
  | objectiveC
  | system
  deriving DecidableEq, Inhabited

namespace Linkage

def all : List Linkage :=
  [d, c, cpp, windows, objectiveC, system]

def title : Linkage → String
  | d => "D"
  | c => "C"
  | cpp => "C++"
  | windows => "Windows"
  | objectiveC => "Objective-C"
  | system => "System"

end Linkage

end Declarations
