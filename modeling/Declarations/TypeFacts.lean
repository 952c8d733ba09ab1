import Declarations.Handle

/-!
# Facts about types

Types belong to the type system.  Layout and purity need a few facts about them, which the type
system answers.
-/

namespace Declarations

/-- What can be reached from a value of a type: the most permissive kind of data behind its
pointers. -/
inductive Indirection where
  /-- There are no pointers. -/
  | none
  | immutable
  | const
  | mutable
  deriving DecidableEq

/-- The answers of the type system. -/
structure TypeFacts where
  /-- The number of bytes of a value. -/
  size : TypeRef → UInt32
  /-- The number of which the address of a value is a multiple. -/
  alignment : TypeRef → UInt32
  /-- Whether a value holds pointers that the collector has to follow. -/
  hasPointers : TypeRef → Bool
  indirection : TypeRef → Indirection

structure TypeRow where
  type : TypeRef
  size : UInt32 := 0
  alignment : UInt32 := 1
  hasPointers : Bool := false
  indirection : Indirection := .none

/-- The facts that a list of types gives.  A type that is not in the list is empty. -/
def TypeFacts.ofRows (rows : List TypeRow) : TypeFacts :=
  let row (type : TypeRef) : TypeRow := (rows.find? fun row => row.type = type).getD { type }
  { size := fun type => (row type).size
    alignment := fun type => (row type).alignment
    hasPointers := fun type => (row type).hasPointers
    indirection := fun type => (row type).indirection }

end Declarations
