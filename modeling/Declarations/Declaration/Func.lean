import Declarations.Attribute
import Declarations.Declaration.FuncRole
import Declarations.Effect
import Declarations.NameTable

/-!
# Functions

The state of a declaration that is a function of any role: its parameters and body, its place in an
overload set, its locals and labels, what is known about its frame, and what inference has
concluded about it.
-/

namespace Declarations

structure Parameter where
  name : Name
  type : TypeRef
  storage : StorageClass := ∅
  default : Option ExprRef := none

/-- Whether an argument for the parameter has to be an lvalue. -/
def Parameter.isByReference (parameter : Parameter) : Bool :=
  parameter.storage.meets {.ref, .output}

/-- How a parameter list goes on after its last parameter. -/
inductive Variadic where
  | none
  /-- Any arguments, without types, as in C. -/
  | cStyle
  /-- Arguments of one type. -/
  | typesafe
  deriving DecidableEq

structure FuncBody where
  statement : Option StmtRef := none
  /-- What analysis found the body to do, in the order of the source. -/
  effects : List Effect := []

inductive InlineStatus where
  | unknown
  | bad
  | ok
  deriving DecidableEq

/-- Whether a function is evaluated by the compiler itself. -/
inductive BuiltinStatus where
  | unknown
  | no
  | yes
  deriving DecidableEq

/-- A persistent fact about the body of a function. -/
inductive FuncFlag where
  /-- The body has inline assembly, about which nothing can be inferred. -/
  | inlineAssembly
  /-- The function is compiled without entry and exit code. -/
  | naked
  deriving DecidableEq

instance : Flag FuncFlag where
  all := [.inlineAssembly, .naked]
  mem_all := by intro flag; cases flag <;> decide
  nodup_all := by decide
  bit := FuncFlag.ctorIdx

structure LabelPlace where
  span : Span
  /-- The last variable in scope at the label. -/
  lastVariable : Option DeclId
  deriving DecidableEq

/-- A jump to a label that is not declared yet. -/
structure PendingJump where
  label : Name
  span : Span
  /-- The last variable in scope at the jump. -/
  lastVariable : Option DeclId
  deriving DecidableEq

structure Func where
  role : FuncRole := .plain
  parameters : List Parameter := []
  variadic : Variadic := .none
  body : Option FuncBody := none
  /-- The `in` contract. -/
  inContract : Option StmtRef := none
  /-- The `out` contract. -/
  outContract : Option StmtRef := none
  /-- The function that checks the `in` contract. -/
  inChecker : Option DeclId := none
  /-- The function that checks the `out` contract. -/
  outChecker : Option DeclId := none
  /-- The result variable of the `out` contract. -/
  resultVariable : Option DeclId := none
  /-- The label that `return` jumps to when there are contracts. -/
  returnLabel : Option Name := none
  /-- The next entry of the overload chain. -/
  next : Option DeclId := none
  /-- The functions that this one overrides. -/
  overrides : List DeclId := []
  locals : NameTable DeclId := .empty
  labels : NameTable LabelPlace := .empty
  pendingJumps : List PendingJump := []
  /-- The object, or the pointer to the frame of the enclosing function. -/
  thisVariable : Option DeclId := none
  /-- The types of the variadic arguments. -/
  argumentTypes : Option DeclId := none
  /-- The pointer to the variadic arguments. -/
  argumentPointer : Option DeclId := none
  /-- The slot in the dispatch table of the class. -/
  vtableSlot : Option Nat := none
  inlineStatement : InlineStatus := .unknown
  inlineExpression : InlineStatus := .unknown
  builtin : BuiltinStatus := .unknown
  /-- The number of places that take the address of the function. -/
  addressUses : Nat := 0
  requiresClosure : Bool := false
  /-- The locals that nested functions refer to. -/
  captured : List DeclId := []
  /-- The functions nested in the same function that call this one. -/
  siblingCallers : List DeclId := []
  flags : FlagSet FuncFlag := ∅
  /-- The attributes that inference has put into the storage class. -/
  inferred : Attributes := ∅
  /-- The attributes that are settled, one way or the other. -/
  concluded : Attributes := ∅
  /-- The name in the object file. -/
  mangled : Option Name := none

namespace Func

def effects (function : Func) : List Effect :=
  match function.body with
  | some body => body.effects
  | none => []

def findLocal? (function : Func) (name : Name) : Option DeclId :=
  function.locals.find? name

def declareLocal (function : Func) (name : Name) (declared : DeclId) : Func :=
  { function with locals := function.locals.insert name declared }

def findLabel? (function : Func) (name : Name) : Option LabelPlace :=
  function.labels.find? name

def declareLabel (function : Func) (name : Name) (place : LabelPlace) : Func :=
  { function with labels := function.labels.insert name place }

/-- Whether the function is compiled without entry and exit code. -/
def isNaked (function : Func) : Bool :=
  function.flags.contains .naked

end Func

end Declarations
