import Declarations.Inference.Downgrade
import Declarations.Nesting.Closure

/-!
# Checking attributes against effects

An attribute that is written in the source is checked against every effect of the body.  An effect
that is found later is checked against every attribute that the function has by then.
-/

namespace Declarations

namespace Func

/-- The function with one more effect; a function without a body gets one. -/
def addEffect (function : Func) (effect : Effect) : Func :=
  let body := function.body.getD {}
  { function with body := some { body with effects := body.effects ++ [effect] } }

end Func

namespace Session

def checkNewEffect (config : Config) (function : DeclId) (effect : Effect) (session : Session)
    (wanted : Attribute) : Except Fault (List DeclError × Session) := do
  if (← session.arena.get function).status config wanted ≠ .holds then
    return ([], session)
  else
    let (broken, session) ← session.breaks config wanted effect
    if broken then
      let (errors, arena) ← session.arena.downgrade config function wanted (some effect)
      return (errors, { session with arena })
    else
      return ([], session)

def checkNewEffectAgainst (config : Config) (function : DeclId) (effect : Effect) :
    Session → List Attribute → Except Fault (List DeclError × Session)
  | session, [] => .ok ([], session)
  | session, wanted :: rest => do
      let (errors, session) ← session.checkNewEffect config function effect wanted
      let (later, session) ← checkNewEffectAgainst config function effect session rest
      return (errors ++ later, session)

/-- Adds an effect to the body of a function.  Attributes that were inferred and that the effect
breaks are taken back; written ones give errors. -/
def recordEffect (config : Config) (session : Session) (function : DeclId) (effect : Effect) :
    Except Fault (List DeclError × Session) := do
  let function ← session.arena.aliasedFunction function
  if !(← session.arena.get function).isFunction then
    return ([], session)
  else
    let arena ← session.arena.modifyFunc function fun state => state.addEffect effect
    checkNewEffectAgainst config function effect { session with arena } Flag.all

/-- The effects of a list that break an attribute, as errors of the function that has them. -/
def violations (config : Config) (function : DeclId) (wanted : Attribute) :
    Session → List Effect → Except Fault (List DeclError × Session)
  | session, [] => .ok ([], session)
  | session, effect :: rest => do
      let (broken, session) ← session.breaks config wanted effect
      let (later, session) ← violations config function wanted session rest
      return (if broken then .attributeViolation function wanted (some effect) :: later else later,
        session)

def violationsOfEach (config : Config) (function : DeclId) (effects : List Effect) :
    Session → List Attribute → Except Fault (List DeclError × Session)
  | session, [] => .ok ([], session)
  | session, wanted :: rest => do
      let (errors, session) ← violations config function wanted session effects
      let (later, session) ← violationsOfEach config function effects session rest
      return (errors ++ later, session)

/-- Checks the body of a function against the attributes that are written in its source. -/
def verify (config : Config) (session : Session) (function : DeclId) :
    Except Fault (List DeclError × Session) := do
  let declaration ← session.arena.get function
  match declaration.asFunc? with
  | none => return ([], session)
  | some state =>
      let written := (Flag.all : List Attribute).filter (declaration.isWritten state)
      violationsOfEach config function state.effects session written

/-- Whether a function needs a closure, the allocation of which is an effect of the function.  The
answer is the first error to which the allocation leads. -/
def checkClosure (config : Config) (session : Session) (function : DeclId) :
    Except Fault (Except DeclError Bool × Session) := do
  let (needed, arena) ← session.arena.needsClosure function
  if !needed then
    return (.ok false, { session with arena })
  else
    let span := (← arena.get function).span
    let (errors, session) ←
      { session with arena }.recordEffect config function (.closureAllocation span)
    match errors with
    | first :: _ => return (.error first, session)
    | [] => return (.ok true, session)

end Session

end Declarations
