import Declarations.Arena.Basic

/-!
# Overload chains

The declarations of one name in one scope form a chain.  A declaration joins a chain at its end if
every declaration of the chain, and its own kind, allows it.
-/

namespace Declarations

inductive ChainEnd where
  /-- The last declaration of the chain. -/
  | last (id : DeclId)
  /-- The new declaration is in the chain. -/
  | alreadyPresent
  /-- The chain comes back to itself, or has a declaration that cannot be overloaded. -/
  | refused
  deriving DecidableEq

/-- Whether a declaration can share its name with functions.  Functions of some roles cannot;
variables and tuples never can. -/
def Declaration.isOverloadable (declaration : Declaration) : Bool :=
  match declaration.entity with
  | .func state => state.role.behavior.overloadable
  | .aliasing _ => true
  | .anchor _ => true
  | .var _ => false
  | .tuple _ => false

namespace Arena

/-- Whether a declaration of a chain lets another one join.  An alias does if what it names could be
in a chain; as long as that is not known, it does. -/
def accepts (arena : Arena) (member added : DeclId) : Except Fault Bool := do
  if !(← arena.get added).isOverloadable then
    return false
  else
    let declaration ← arena.get member
    match declaration.entity with
    | .aliasing state =>
        match state.target with
        | some target => return (← arena.get target).isChainable
        | none => return true
    | _ => return declaration.isOverloadable

/-- The end of the chain that goes on with `current`, after the declarations in `passed`. -/
def findChainEnd (arena : Arena) (added : DeclId) :
    Nat → List DeclId → DeclId → Except Fault ChainEnd
  | 0, _, _ => .error .unfinished
  | steps + 1, passed, current => do
      if !(← arena.accepts current added) then
        return .refused
      else
        match (← arena.get current).next? with
        | none => return .last current
        | some next =>
            if next = added then
              return .alreadyPresent
            else if next ∈ current :: passed then
              return .refused
            else
              findChainEnd arena added steps (current :: passed) next

/-- Puts a declaration at the end of the chain that starts at `head`.  A declaration that is in the
chain stays where it is. -/
def joinChain (arena : Arena) (head added : DeclId) :
    Except Fault (Except DeclError Unit × Arena) := do
  if head = added then
    return (.ok (), arena)
  else
    match ← arena.findChainEnd added (arena.size + 1) [] head with
    | .alreadyPresent => return (.ok (), arena)
    | .refused => return (.error (.notOverloadable head added), arena)
    | .last tail =>
        let arena ← arena.modify tail fun declaration => declaration.withNext added
        return (.ok (), arena)

end Arena

end Declarations
