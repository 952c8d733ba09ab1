import Declarations.Handle
import Declarations.Span
import Declarations.StorageClass

/-!
# Effects

While the body of a function is analysed, everything that can break an attribute of the function is
recorded as an effect at a place.
-/

namespace Declarations

/-- Something that the body of a function does. -/
inductive Effect where
  /-- Direct call of a known function. -/
  | call (callee : DeclId) (span : Span)
  /-- Call through a pointer or delegate whose type has the given attributes. -/
  | indirectCall (attributes : StorageClass) (span : Span)
  /-- Read or write of a variable of the module or of static storage. -/
  | globalAccess (accessed : DeclId) (writes : Bool) (span : Span)
  /-- Pointer arithmetic, an unsafe cast and the like. -/
  | unsafeOperation (span : Span)
  /-- Access to a field of an aggregate. -/
  | fieldAccess (field : DeclId) (span : Span)
  | throwing (span : Span)
  | gcAllocation (span : Span)
  /-- Heap allocation of the frame that nested functions share. -/
  | closureAllocation (span : Span)
  deriving DecidableEq

namespace Effect

def span : Effect → Span
  | call _ span => span
  | indirectCall _ span => span
  | globalAccess _ _ span => span
  | unsafeOperation span => span
  | fieldAccess _ span => span
  | throwing span => span
  | gcAllocation span => span
  | closureAllocation span => span

def callee? : Effect → Option DeclId
  | call callee _ => some callee
  | _ => none

/-- What the function does, in the words that follow the name of the function in a report. -/
def describe : Effect → String
  | call _ _ => "calls a function that breaks the attribute"
  | indirectCall _ _ => "calls through a pointer lacking the attribute"
  | globalAccess _ true _ => "writes mutable global state"
  | globalAccess _ false _ => "reads mutable global state"
  | unsafeOperation _ => "performs an unsafe operation"
  | fieldAccess _ _ => "accesses a field overlapping a pointer"
  | throwing _ => "may throw"
  | gcAllocation _ => "allocates with the GC"
  | closureAllocation _ => "allocates a closure with the GC"

end Effect

end Declarations
