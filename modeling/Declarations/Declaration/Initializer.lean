import Declarations.Handle

/-!
# Initializers

What a variable is set to when it comes into being.
-/

namespace Declarations

inductive Initializer where
  /-- The memory is left as it is. -/
  | void
  /-- The memory is filled with zeros. -/
  | zero
  | expression (value : ExprRef)
  /-- A value for each of some fields; a value without a field is for the next one. -/
  | fields (values : List (Option DeclId × Initializer))
  /-- A value for each of some places; a value without a place is for the next one. -/
  | elements (values : List (Option ExprRef × Initializer))
  deriving Inhabited

namespace Initializer

mutual

/-- Whether running the initializer has the same result as memory that is zero or left alone. -/
def isTrivial : Initializer → Bool
  | void => true
  | zero => true
  | expression _ => false
  | fields values => fieldsTrivial values
  | elements values => elementsTrivial values

def fieldsTrivial : List (Option DeclId × Initializer) → Bool
  | [] => true
  | (_, value) :: rest => isTrivial value && fieldsTrivial rest

def elementsTrivial : List (Option ExprRef × Initializer) → Bool
  | [] => true
  | (_, value) :: rest => isTrivial value && elementsTrivial rest

end

end Initializer

end Declarations
