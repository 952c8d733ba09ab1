import Declarations.Arena.Placement
import Declarations.Inference.Session
import Declarations.Modifier
import Declarations.TypeFacts

/-!
# Strength of purity

A pure function may still change what it reaches through its parameters.  The less of that it can
do, the stronger its purity: calls of a strongly pure function with equal arguments are
interchangeable.
-/

namespace Declarations

/-- How well a function is isolated from its callers. -/
inductive PurityLevel where
  | impure
  /-- Not known yet, because purity is being inferred. -/
  | forwardReference
  | weak
  | const
  | strong
  deriving DecidableEq

namespace PurityLevel

def all : List PurityLevel :=
  [impure, forwardReference, weak, const, strong]

def rank (level : PurityLevel) : Nat :=
  level.ctorIdx

instance : LE PurityLevel := ⟨fun left right => left.rank ≤ right.rank⟩

instance : LT PurityLevel := ⟨fun left right => left.rank < right.rank⟩

instance (left right : PurityLevel) : Decidable (left ≤ right) :=
  inferInstanceAs (Decidable (left.rank ≤ right.rank))

instance (left right : PurityLevel) : Decidable (left < right) :=
  inferInstanceAs (Decidable (left.rank < right.rank))

def weaker (left right : PurityLevel) : PurityLevel :=
  if left ≤ right then left else right

def title : PurityLevel → String
  | impure => "impure"
  | forwardReference => "forward reference"
  | weak => "weakly pure"
  | const => "const pure"
  | strong => "strongly pure"

/-- How strong purity can be when a value of a type is passed, as far as its pointers tell. -/
def ofIndirection : Indirection → PurityLevel
  | .none => strong
  | .immutable => strong
  | .const => const
  | .mutable => weak

/-- How strong purity can be with a parameter.  Through a parameter that is no value of its own, the
function reaches into its caller. -/
def ofParameter (facts : TypeFacts) (parameter : Parameter) : PurityLevel :=
  if parameter.storage.meets {.ref, .output, .lazy} then
    weak
  else
    ofIndirection (facts.indirection parameter.type)

def ofObject (modifiers : Modifiers) : PurityLevel :=
  if modifiers.contains .immutable then strong
  else if modifiers.meets {.const, .wild} then const
  else weak

def ofParameters (facts : TypeFacts) (parameters : List Parameter) : PurityLevel :=
  parameters.foldl (fun level parameter => weaker level (ofParameter facts parameter)) strong

end PurityLevel

namespace Session

def objectStrength (session : Session) (function : DeclId) : Except Fault PurityLevel := do
  if ← session.arena.needsObject function then
    return .ofObject (Modifiers.ofStorage (← session.arena.get function).storage)
  else
    return .strong

def frameStrength (session : Session) (function : DeclId) : Except Fault PurityLevel := do
  if ← session.arena.isNested function then
    return .weak
  else
    return .strong

/-- How strong the purity of a function that is known to be pure is: no stronger than its
parameters, its object and the frame around it allow. -/
def strength (session : Session) (facts : TypeFacts) (function : DeclId) (state : Func) :
    Except Fault PurityLevel := do
  let parameters := PurityLevel.ofParameters facts state.parameters
  let object ← session.objectStrength function
  let frame ← session.frameStrength function
  return (parameters.weaker object).weaker frame

def purityLevel (config : Config) (session : Session) (facts : TypeFacts) (function : DeclId) :
    Except Fault (PurityLevel × Session) := do
  let function ← session.arena.aliasedFunction function
  if session.isOpen function .purity then
    return (.forwardReference, session)
  else
    let (isPure, session) ← session.infer config function .purity
    if !isPure then
      return (.impure, session)
    else
      match ← session.arena.asFunc? function with
      | none => return (.impure, session)
      | some state => return (← session.strength facts function state, session)

end Session

end Declarations
