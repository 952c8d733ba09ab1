import Declarations.Overload.Resolution

/-!
# Calls

A call names an overload set and needs one function of it that may be used at that place.
-/

namespace Declarations

structure UseSite where
  /-- The function that the use is in. -/
  function : Option DeclId := none
  span : Span

def Declaration.isDisabled (declaration : Declaration) : Bool :=
  declaration.storage.contains .disable

namespace Arena

def anyEnabled (arena : Arena) (start : DeclId) : Except Fault Bool := do
  let tour ← arena.tour start false fun _ function => do
    if (← arena.get function).isDisabled then
      return .yield false
    else
      return .done true
  return tour.value

def isDisabledSite (arena : Arena) (site : UseSite) : Except Fault Bool := do
  match site.function with
  | some function => return (← arena.get function).isDisabled
  | none => return false

/-- Fails if a declaration may not be used at a place.  A disabled declaration may be used inside a
disabled function.  When a whole set is named, one function of it that is not disabled is enough. -/
def checkUsable (arena : Arena) (id : DeclId) (site : UseSite) (namesSet : Bool) :
    Except Fault (Except DeclError Unit) := do
  let declaration ← arena.get id
  if !declaration.isDisabled then
    return .ok ()
  else if ← arena.isDisabledSite site then
    return .ok ()
  else if namesSet && declaration.isFunction then
    return if ← arena.anyEnabled id then .ok () else .error (.disabled id site.span)
  else
    return .error (.disabled id site.span)

/-- The function that a call goes to.  It is an error if no function fits, if two fit equally well,
or if the best one may not be used at the place of the call. -/
def resolveCall (arena : Arena) (oracle : MatchOracle) (start : DeclId)
    (templateArguments : Option (List TemplateArgument)) (object : Option TypeRef)
    (arguments : List Argument) (site : UseSite) : Except Fault (Except DeclError DeclId) := do
  let resolution ← arena.resolve oracle start templateArguments object arguments
  match resolution.winner, resolution.rival.filter fun _ => resolution.isAmbiguous with
  | none, _ => return .error (.noMatchingOverload start site.span resolution.first)
  | some winner, some rival => return .error (.ambiguousOverload start site.span winner rival)
  | some winner, none => return (← arena.checkUsable winner site false).map fun _ => winner

end Arena

end Declarations
