import Declarations.Handle
import Declarations.Linkage
import Declarations.Name
import Declarations.Span
import Declarations.Visibility

/-!
# Aggregates

Structs, unions, classes and interfaces, as far as their members depend on them: a member takes its
visibility from its aggregate if it has none of its own, and only members of classes are dispatched.
-/

namespace Declarations

inductive AggregateKind where
  | struct
  | union
  | classType
  | interface
  deriving DecidableEq

namespace AggregateKind

def all : List AggregateKind :=
  [struct, union, classType, interface]

/-- Whether members can be dispatched. -/
def isClass : AggregateKind → Bool
  | classType => true
  | interface => true
  | _ => false

def isInterface (kind : AggregateKind) : Bool :=
  kind = interface

def isUnion (kind : AggregateKind) : Bool :=
  kind = union

end AggregateKind

structure Aggregate where
  name : Name
  span : Span
  kind : AggregateKind
  visibility : Visibility := .publicAccess
  linkage : Linkage := .d
  /-- Whether no class may be derived from it. -/
  isFinal : Bool := false
  /-- The fields, in the order of declaration. -/
  fields : List DeclId := []
  /-- The number of bytes, once laid out. -/
  size : UInt32 := 0

end Declarations
