import Declarations.Overload.Match
import Declarations.Overload.Tour

/-!
# Overload resolution

A call goes to the function of an overload set that fits its arguments best.  The candidates are
compared one after the other with the best one so far.  Of two that fit equally well, one that
overrides the other is better, then a definition is better than a declaration of the same function,
and then the more specialized one is better.  Candidates that are equal in all of that make the call
ambiguous.
-/

namespace Declarations

/-- How the search for the best function stands. -/
structure Resolution where
  /-- The number of candidates that share the best place. -/
  count : Nat := 0
  /-- How well the best candidate fits. -/
  level : MatchLevel := .noMatch
  /-- The best candidate. -/
  winner : Option DeclId := none
  /-- Another candidate that is as good as the best one. -/
  rival : Option DeclId := none
  /-- The first candidate of all, whether it fits or not. -/
  first : Option DeclId := none

namespace Resolution

def isUnmatched (resolution : Resolution) : Bool :=
  resolution.winner.isNone

def isAmbiguous (resolution : Resolution) : Bool :=
  2 ≤ resolution.count

/-- The best candidate, if it has no rival. -/
def best? (resolution : Resolution) : Option DeclId :=
  if resolution.count = 1 then resolution.winner else none

def meet (resolution : Resolution) (candidate : DeclId) : Resolution :=
  { resolution with first := resolution.first <|> some candidate }

def take (resolution : Resolution) (candidate : DeclId) (level : MatchLevel) : Resolution :=
  { resolution with level, winner := some candidate, rival := none, count := 1 }

def tie (resolution : Resolution) (candidate : DeclId) : Resolution :=
  { resolution with rival := some candidate, count := resolution.count + 1 }

end Resolution

def Declaration.overrides (declaration : Declaration) (base : DeclId) : Bool :=
  declaration.asFunc?.any fun state => state.overrides.contains base

/-- Whether two declarations can be of one function: one that only declares it, and one that defines
it. -/
def Declaration.sameFunction (left right : Declaration) : Bool :=
  left.type.isSome && left.type = right.type && left.storage = right.storage &&
    left.owner = right.owner && left.visibility = right.visibility && left.linkage = right.linkage

def Declaration.hasBody (declaration : Declaration) : Bool :=
  declaration.asFunc?.any fun state => state.body.isSome

namespace Arena

/-- The order of two candidates that fit equally well; `gt` prefers the challenger. -/
def breakTie (arena : Arena) (oracle : MatchOracle) (challenger holder : DeclId) :
    Except Fault Ordering := do
  let challenging ← arena.get challenger
  let holding ← arena.get holder
  if holding.overrides challenger then
    return .lt
  else if challenging.overrides holder then
    return .gt
  else if challenging.sameFunction holding && challenging.hasBody != holding.hasBody then
    return if challenging.hasBody then .gt else .lt
  else
    let forward ← arena.asSpecialized oracle challenger holder
    let backward ← arena.asSpecialized oracle holder challenger
    return forward.order backward

/-- The type of the object as a candidate sees it: only members that need an object see one, and
constructors do not. -/
def objectFor (arena : Arena) (candidate : DeclId) (object : Option TypeRef) :
    Except Fault (Option TypeRef) := do
  if (← arena.needsObject candidate) && !(← arena.get candidate).isConstructor then
    return object
  else
    return none

def challenge (arena : Arena) (oracle : MatchOracle) (resolution : Resolution)
    (candidate : DeclId) (level : MatchLevel) : Except Fault Resolution := do
  match resolution.winner with
  | none => return resolution.take candidate level
  | some holder =>
      match level.order resolution.level with
      | .gt => return resolution.take candidate level
      | .lt => return resolution
      | .eq =>
          match ← arena.breakTie oracle candidate holder with
          | .gt => return resolution.take candidate level
          | .lt => return resolution
          | .eq => return resolution.tie candidate

def consider (arena : Arena) (oracle : MatchOracle) (object : Option TypeRef)
    (arguments : List Argument) (resolution : Resolution) (candidate : DeclId) :
    Except Fault Resolution := do
  let met := resolution.meet candidate
  match ← arena.signature? candidate with
  | none => return met
  | some signature =>
      let level := oracle signature arguments (← arena.objectFor candidate object)
      if level = .noMatch then
        return met
      else
        arena.challenge oracle met candidate level

/-- Whether a call gives arguments to a template.  No candidate is a template, so none fits such a
call. -/
def instantiates (templateArguments : Option (List TemplateArgument)) : Bool :=
  templateArguments.any fun given => !given.isEmpty

def resolve (arena : Arena) (oracle : MatchOracle) (start : DeclId)
    (templateArguments : Option (List TemplateArgument)) (object : Option TypeRef)
    (arguments : List Argument) : Except Fault Resolution := do
  let tour ← arena.tour start {} fun resolution candidate => do
    if instantiates templateArguments then
      return .yield (resolution.meet candidate)
    else
      return .yield (← arena.consider oracle object arguments resolution candidate)
  return tour.value

end Arena

end Declarations
