import Declarations.Arena.Basic

/-!
# Chains of aliases

An alias may name another alias.  A general alias is followed with a counter on every declaration
that the walk is passing through, so that a chain that comes back is an error.  A function that is
another name for a function is followed for at most as many steps as there are declarations, which
is enough for every chain that ends; a chain that comes back to its start stops before it.
-/

namespace Declarations

namespace Arena

/-- Counts one more walk, or one less, that is passing through a declaration. -/
def countWalks (arena : Arena) (id : DeclId) (count : Nat → Nat) : Except Fault Arena :=
  arena.modify id fun declaration => { declaration with inUse := count declaration.inUse }

/-- The declaration at the end of a chain of at most `depth` aliases. -/
def followAliases : Nat → Arena → DeclId → Except Fault (Except DeclError DeclId × Arena)
  | 0, _, _ => .error .unfinished
  | depth + 1, arena, id => do
      let declaration ← arena.get id
      match declaration.standsFor? with
      | none => return (.ok id, arena)
      | some target =>
          if 0 < declaration.inUse then
            return (.error (.recursiveAlias declaration.name declaration.span), arena)
          else
            let entered ← arena.countWalks id (· + 1)
            let (resolved, walked) ← followAliases depth entered target
            let left ← walked.countWalks id (· - 1)
            return (resolved, left)

/-- The declaration that an alias finally names; any other declaration is its own answer.  No chain
is longer than the arena, because the counters stop a walk that comes back. -/
def resolveAlias (arena : Arena) (id : DeclId) :
    Except Fault (Except DeclError DeclId × Arena) :=
  followAliases (arena.size + 1) arena id

/-- The function after at most `steps` links from `current`, in a walk that began at `start`. -/
def followFunctionAliases (arena : Arena) (start : DeclId) : Nat → DeclId → Except Fault DeclId
  | 0, current => .ok current
  | steps + 1, current => do
      match (← arena.get current).aliasedFunction? with
      | some target =>
          if target = start then
            return current
          else
            followFunctionAliases arena start steps target
      | none => return current

/-- The function that a function is, through any number of other names, another name for. -/
def aliasedFunction (arena : Arena) (id : DeclId) : Except Fault DeclId :=
  followFunctionAliases arena id arena.size id

end Arena

end Declarations
