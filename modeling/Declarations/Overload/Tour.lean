import Declarations.Arena.AliasChain

/-!
# Tours of overload sets

The functions of an overload set are found by following chains.  A node of a chain may be a
function, another name for one function, or an entrance to the chains of another set.  A tour goes
through a set in the order of declaration: first into the set that a node is an entrance to, then on
along the chain of the node.  A node is entered once, which ends tours of sets that contain
themselves, and a function is shown once, however many names it has in the set.
-/

namespace Declarations

/-- What a node adds to a tour. -/
inductive Stop where
  | nothing
  /-- A function to show. -/
  | function (id : DeclId)
  /-- The first node of another set. -/
  | entrance (id : DeclId)
  deriving DecidableEq

structure Tour where
  /-- The nodes to go to, the next one first. -/
  pending : List DeclId
  /-- The nodes that were entered. -/
  entered : List DeclId := []
  /-- The functions that were shown. -/
  shown : List DeclId := []

namespace Arena

/-- What a node adds to a tour.  An anchor stands for one function if it does not forward a set and
its target is a function, and for a set otherwise. -/
def stopAt (arena : Arena) (id : DeclId) (declaration : Declaration) : Except Fault Stop := do
  match declaration.entity with
  | .func state =>
      match state.role with
      | .aliasTo target true => return .entrance target
      | .aliasTo _ false => return .function (← arena.aliasedFunction id)
      | _ => return .function id
  | .anchor state =>
      match state.target with
      | none => return .nothing
      | some target =>
          if state.forwardsSet then
            return .entrance target
          else if (← arena.get target).isFunction then
            return .function (← arena.aliasedFunction target)
          else
            return .entrance target
  | .aliasing state =>
      match state.target with
      | some target => return .entrance target
      | none => return .nothing
  | .var _ => return .nothing
  | .tuple _ => return .nothing

/-- Goes on with a tour for at most `steps` nodes, showing functions to `visit` until it is done. -/
def continueTour {σ : Type} (arena : Arena) (visit : σ → DeclId → Except Fault (ForInStep σ)) :
    Nat → Tour → σ → Except Fault (ForInStep σ)
  | 0, _, _ => .error .unfinished
  | steps + 1, tour, seen =>
      match tour.pending with
      | [] => .ok (.yield seen)
      | id :: later =>
          if id ∈ tour.entered then
            continueTour arena visit steps { tour with pending := later } seen
          else do
            let declaration ← arena.get id
            let onward : Tour := { tour with
              pending := declaration.next?.toList ++ later
              entered := id :: tour.entered }
            match ← arena.stopAt id declaration with
            | .nothing => continueTour arena visit steps onward seen
            | .entrance target =>
                continueTour arena visit steps
                  { onward with pending := target :: onward.pending } seen
            | .function function =>
                if !(← arena.get function).isFunction || function ∈ tour.shown then
                  continueTour arena visit steps onward seen
                else
                  match ← visit seen function with
                  | .done result => return .done result
                  | .yield result =>
                      continueTour arena visit steps
                        { onward with shown := function :: tour.shown } result

/-- Shows the functions of the overload set at `start` to `visit`, in the order of the tour, until
it is done.  Every node is entered once and makes at most two others pending, so the number of steps
is enough. -/
def tour {σ : Type} (arena : Arena) (start : DeclId) (seen : σ)
    (visit : σ → DeclId → Except Fault (ForInStep σ)) : Except Fault (ForInStep σ) :=
  arena.continueTour visit (2 * arena.size + 2) { pending := [start] } seen

def candidates (arena : Arena) (start : DeclId) : Except Fault (List DeclId) := do
  let tour ← arena.tour start [] fun found function => .ok (.yield (found ++ [function]))
  return tour.value

/-- The function of an overload set that has exactly one. -/
def onlyCandidate? (arena : Arena) (start : DeclId) : Except Fault (Option DeclId) := do
  let tour ← arena.tour start none fun found function =>
    match found with
    | none => .ok (.yield (some function))
    | some _ => .ok (.done none)
  return tour.value

def candidateOfType? (arena : Arena) (start : DeclId) (type : TypeRef) :
    Except Fault (Option DeclId) := do
  let tour ← arena.tour start none fun _ function => do
    if (← arena.get function).type = some type then
      return .done (some function)
    else
      return .yield none
  return tour.value

/-- The functions of an overload set up to the one with the given number, counted from one, and that
function.  Number zero stands for no function. -/
def candidatesUpTo (arena : Arena) (start : DeclId) (number : Nat) :
    Except Fault (List DeclId × Option DeclId) := do
  let tour ← arena.tour start ([], none) fun found function =>
    let shown := found.1 ++ [function]
    if shown.length = number then
      .ok (.done (shown, some function))
    else
      .ok (.yield (shown, none))
  return tour.value

end Arena

end Declarations
