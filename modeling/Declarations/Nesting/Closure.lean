import Declarations.Arena.Basic

/-!
# Closures

The frame of a function normally ends with the call.  If a nested function that refers to a local of
the frame can still run later, the frame has to be allocated on the heap, as a closure.  A nested
function can run later if it is a member of an aggregate, if its address is taken, or if a function
that calls it can run later.
-/

namespace Declarations

/-- Whether the declaration can by itself run after the call of the function around it. -/
def Declaration.escapes (declaration : Declaration) : Bool :=
  declaration.objectOf?.isSome || declaration.asFunc?.any fun state => 0 < state.addressUses

structure EscapeSearch where
  arena : Arena
  /-- The functions whose callers were looked at. -/
  visited : List DeclId := []

namespace Arena

/-- Marks the functions from `current` outwards up to `outermost`, at most `steps` of them, as
needing a closure. -/
def markOutwards (outermost : DeclId) : Nat → Arena → Option DeclId → Except Fault Arena
  | 0, arena, _ => .ok arena
  | _ + 1, arena, none => .ok arena
  | steps + 1, arena, some current => do
      let marked ← arena.modifyFunc current fun state => { state with requiresClosure := true }
      if current = outermost then
        return marked
      else
        markOutwards outermost steps marked (← marked.get current).localTo?

def markClosures (arena : Arena) (function outermost : DeclId) : Except Fault Arena := do
  markOutwards outermost (arena.size + 1) arena (← arena.get function).localTo?

end Arena

namespace EscapeSearch

/-- Looks at one caller.  If it escapes itself, the functions around it need closures. -/
def lookAt (search : EscapeSearch) (outermost caller : DeclId) :
    Except Fault (Bool × EscapeSearch) := do
  if (← search.arena.get caller).escapes then
    return (true, { search with arena := ← search.arena.markClosures caller outermost })
  else
    return (false, search)

def anyCaller (later : EscapeSearch → DeclId → Except Fault (Bool × EscapeSearch))
    (outermost : DeclId) : EscapeSearch → List DeclId → Except Fault (Bool × EscapeSearch)
  | search, [] => .ok (false, search)
  | search, caller :: rest => do
      let (escapes, search) ← search.lookAt outermost caller
      let (called, search) ← later search caller
      let (others, search) ← anyCaller later outermost search rest
      return (escapes || called || others, search)

/-- Whether `function` is called, directly or through others, by a function that escapes.  Functions
that were visited before are not looked at again, so a chain of at most `depth` callers ends. -/
def calledByEscaping (outermost : DeclId) :
    Nat → EscapeSearch → DeclId → Except Fault (Bool × EscapeSearch)
  | 0, _, _ => .error .unfinished
  | depth + 1, search, function =>
      if function ∈ search.visited then
        .ok (false, search)
      else do
        let entered := { search with visited := function :: search.visited }
        match ← entered.arena.asFunc? function with
        | none => return (false, entered)
        | some state =>
            anyCaller (calledByEscaping outermost depth) outermost entered state.siblingCallers

/-- Whether a function can run later: by itself or through its callers. -/
def canOutlive (search : EscapeSearch) (outermost function : DeclId) :
    Except Fault (Bool × EscapeSearch) := do
  if (← search.arena.get function).escapes then
    return (true, search)
  else
    calledByEscaping outermost (search.arena.size + 1) search function

/-- Whether `current`, or one of the functions around it inside `outermost`, can run later.  At most
`steps` functions are looked at. -/
def anyEnclosing (outermost : DeclId) :
    Nat → EscapeSearch → DeclId → Except Fault (Bool × EscapeSearch)
  | 0, search, _ => .ok (false, search)
  | steps + 1, search, current =>
      if current = outermost then
        .ok (false, search)
      else do
        let (outlives, search) ← search.canOutlive outermost current
        if outlives then
          return (true, search)
        else
          match (← search.arena.get current).localTo? with
          | none => return (false, search)
          | some outer => anyEnclosing outermost steps search outer

def anyReferrer (owner : DeclId) :
    EscapeSearch → List DeclId → Except Fault (Bool × EscapeSearch)
  | search, [] => .ok (false, search)
  | search, referrer :: rest => do
      let (outlives, search) ← anyEnclosing owner (search.arena.size + 1) search referrer
      if outlives then
        return (true, search)
      else
        anyReferrer owner search rest

end EscapeSearch

namespace Arena

def referrers (arena : Arena) (locals : List DeclId) : Except Fault (List DeclId) := do
  let states ← locals.mapM arena.asVariable?
  return (states.filterMap id).flatMap Variable.nestedReferences

/-- Whether the frame of a function has to be a closure: a function that refers to one of its locals
can run after the call.  A function that needs a closure is marked. -/
def needsClosure (arena : Arena) (function : DeclId) : Except Fault (Bool × Arena) := do
  match ← arena.asFunc? function with
  | none => return (false, arena)
  | some state =>
      let referrers ← arena.referrers state.captured
      let (needed, search) ← EscapeSearch.anyReferrer function { arena } referrers
      let arena ← search.arena.modifyFunc function fun state =>
        { state with requiresClosure := state.requiresClosure || needed }
      return (needed, arena)

end Arena

end Declarations
