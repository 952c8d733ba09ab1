import Declarations.Handle

/-!
# Tuples

A tuple is a sequence of types, or a sequence of declarations and expressions, under one name.  A
tuple with an element of the wrong sort cannot be made.
-/

namespace Declarations

inductive TupleKind where
  | expressions
  | types
  deriving DecidableEq

inductive TupleElement where
  | declaration (id : DeclId)
  | type (type : TypeRef)
  | expression (value : ExprRef)
  deriving DecidableEq

def TupleElement.fits (kind : TupleKind) : TupleElement → Bool
  | .type _ => kind = .types
  | .declaration _ => kind = .expressions
  | .expression _ => kind = .expressions

structure Tuple where
  kind : TupleKind
  elements : List TupleElement

namespace Tuple

/-- A tuple of the given elements, or the place of the first element that does not fit. -/
def make (kind : TupleKind) (elements : List TupleElement) : Except Nat Tuple :=
  match elements.findIdx? fun element => !element.fits kind with
  | some place => .error place
  | none => .ok { kind, elements }

end Tuple

end Declarations
