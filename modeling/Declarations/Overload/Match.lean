import Declarations.Arena.Placement
import Declarations.Modifier

/-!
# Matching arguments with parameters

How well a list of arguments fits a function is for the type system to say.  It is asked with the
part of the function that matters for that, its signature.
-/

namespace Declarations

inductive MatchLevel where
  | noMatch
  /-- With conversions of values. -/
  | conversion
  /-- With conversions to `const`. -/
  | constConversion
  | exact
  deriving DecidableEq

namespace MatchLevel

def rank (level : MatchLevel) : Nat :=
  level.ctorIdx

instance : LE MatchLevel := ⟨fun left right => left.rank ≤ right.rank⟩

instance (left right : MatchLevel) : Decidable (left ≤ right) :=
  inferInstanceAs (Decidable (left.rank ≤ right.rank))

/-- The order of two levels; the greater one is the better one. -/
def order (left right : MatchLevel) : Ordering :=
  compare left.rank right.rank

end MatchLevel

structure Argument where
  type : TypeRef
  expression : Option ExprRef := none
  /-- Whether the argument can be passed by reference. -/
  isLvalue : Bool := false

inductive TemplateArgument where
  | type (type : TypeRef)
  | expression (value : ExprRef)

/-- What matters about a function when arguments are matched with it. -/
structure Signature where
  function : DeclId
  type : Option TypeRef
  parameters : List Parameter
  variadic : Variadic
  storage : StorageClass

/-- The answer of the type system to how well arguments, and for a member the type of the object,
fit a function. -/
abbrev MatchOracle :=
  Signature → List Argument → Option TypeRef → MatchLevel

def Declaration.signature? (declaration : Declaration) (id : DeclId) : Option Signature :=
  declaration.asFunc?.map fun state =>
    { function := id
      type := declaration.type
      parameters := state.parameters
      variadic := state.variadic
      storage := declaration.storage }

/-- The arguments that a function would pass on to another one if it had its own parameters as
arguments. -/
def Signature.ownArguments (signature : Signature) : List Argument :=
  signature.parameters.map fun parameter =>
    { type := parameter.type, isLvalue := parameter.isByReference }

def Declaration.isConstructor (declaration : Declaration) : Bool :=
  declaration.asFunc?.any fun state => state.role = .ctor

/-- Whether the objects of one member function can be passed to another, as far as modifiers go.  A
constructor makes its object, so there the conversion goes the other way. -/
def objectConverts (isConstructor : Bool) (source target : StorageClass) : Bool :=
  if isConstructor then
    (Modifiers.ofStorage target).convertsTo (Modifiers.ofStorage source)
  else
    (Modifiers.ofStorage source).convertsTo (Modifiers.ofStorage target)

namespace Arena

def signature? (arena : Arena) (id : DeclId) : Except Fault (Option Signature) := do
  return (← arena.get id).signature? id

/-- Whether both functions need an object and that of `source` cannot be passed to `target`. -/
def objectsClash (arena : Arena) (source target : DeclId) : Except Fault Bool := do
  if ← arena.needsObject source then
    if ← arena.needsObject target then
      let declaration ← arena.get source
      return !objectConverts declaration.isConstructor declaration.storage
        (← arena.get target).storage
    else
      return false
  else
    return false

/-- How well `target` accepts what `source` accepts.  A function that takes any further arguments is
never as specialized as one that does not. -/
def asSpecialized (arena : Arena) (oracle : MatchOracle) (source target : DeclId) :
    Except Fault MatchLevel := do
  match ← arena.signature? source, ← arena.signature? target with
  | some sourceSignature, some targetSignature =>
      if ← arena.objectsClash source target then
        return .noMatch
      else if sourceSignature.variadic ≠ .none && targetSignature.variadic = .none then
        return .noMatch
      else
        return oracle targetSignature sourceSignature.ownArguments none
  | _, _ => return .noMatch

end Arena

end Declarations
