import Declarations.Inference.Session

/-!
# Taking attributes back

An effect that is found late can break an attribute that a function was already concluded to have.
The attribute is then taken back, and with it that of every function that has it because of a call
of the first one, and so on.  An attribute that is written in the source cannot be taken back; the
source is wrong then, and an error says so.  Trusted functions may do what is unsafe.
-/

namespace Declarations

/-- What became of the attempt to take an attribute back. -/
inductive Withdrawal where
  /-- The attribute was inferred and is gone. -/
  | dropped
  /-- There was nothing to take back. -/
  | nothing
  /-- The attribute is written in the source. -/
  | violated (cause : DeclError)

/-- A call by a function that has an attribute. -/
structure CallEdge where
  callee : DeclId
  caller : DeclId
  /-- The call, as an effect of the caller. -/
  effect : Effect

/-- How far the taking back of an attribute has come. -/
structure Retreat where
  arena : Arena
  /-- The functions that lost the attribute and whose callers are still to be looked at, the latest
  one first. -/
  waiting : List DeclId
  /-- The callers that were looked at. -/
  seen : List DeclId := []
  errors : List DeclError := []

namespace Arena

/-- Takes an attribute of a function back if it was inferred. -/
def withdraw (arena : Arena) (function : DeclId) (wanted : Attribute) (cause : Option Effect) :
    Except Fault (Withdrawal × Arena) := do
  let declaration ← arena.get function
  match declaration.asFunc? with
  | none => return (.nothing, arena)
  | some state =>
      if wanted = .safety && declaration.storage.contains .trusted then
        return (.nothing, arena)
      else if declaration.isWritten state wanted then
        return (.violated (.attributeViolation function wanted cause), arena)
      else if state.inferred.contains wanted then
        return (.dropped, ← arena.modify function fun declaration => declaration.withdraw wanted)
      else
        return (.nothing, arena)

/-- The calls that a declaration makes, as edges to the functions that are really called. -/
def callEdges (arena : Arena) (caller : DeclId) : List Effect → Except Fault (List CallEdge)
  | [] => .ok []
  | effect :: rest => do
      match effect.callee? with
      | none => callEdges arena caller rest
      | some callee =>
          let callee ← arena.aliasedFunction callee
          return { callee, caller, effect } :: (← callEdges arena caller rest)

def edgesOf (arena : Arena) (wanted : Attribute) (caller : DeclId) (declaration : Declaration) :
    Except Fault (List CallEdge) :=
  match declaration.asFunc? with
  | none => .ok []
  | some state =>
      if wanted.holdsIn declaration.storage then
        arena.callEdges caller state.effects
      else
        .ok []

/-- The calls of every function that has an attribute, in the order of the functions and of their
effects. -/
def holdingEdges (arena : Arena) (wanted : Attribute) : Except Fault (List CallEdge) := do
  let edges ← arena.declarations.toList.zipIdx.mapM fun (declaration, number) =>
    arena.edgesOf wanted ⟨number⟩ declaration
  return edges.flatten

end Arena

namespace Retreat

def lookAt (wanted : Attribute) (retreat : Retreat) (edge : CallEdge) : Except Fault Retreat := do
  if edge.caller ∈ retreat.seen then
    return retreat
  else
    let seen := edge.caller :: retreat.seen
    match ← retreat.arena.withdraw edge.caller wanted (some edge.effect) with
    | (.dropped, arena) =>
        return { retreat with arena, seen, waiting := edge.caller :: retreat.waiting }
    | (.nothing, arena) => return { retreat with arena, seen }
    | (.violated cause, arena) =>
        return { retreat with arena, seen, errors := retreat.errors ++ [cause] }

/-- Looks at the callers of every function that waits.  Every caller is put on the waiting list at
most once, so there are no more rounds than declarations. -/
def run (wanted : Attribute) (edges : List CallEdge) : Nat → Retreat → Except Fault Retreat
  | 0, _ => .error .unfinished
  | rounds + 1, retreat =>
      match retreat.waiting with
      | [] => .ok retreat
      | callee :: waiting => do
          let looked ← (edges.filter fun edge => edge.callee = callee).foldlM (lookAt wanted)
            { retreat with waiting }
          run wanted edges rounds looked

end Retreat

namespace Arena

/-- Takes an attribute back from everyone who has it because of a call of `callee`. -/
def downgradeCallers (arena : Arena) (callee : DeclId) (wanted : Attribute) :
    Except Fault (List DeclError × Arena) := do
  let edges ← arena.holdingEdges wanted
  let retreat ← Retreat.run wanted edges (arena.size + 2) { arena, waiting := [callee] }
  return (retreat.errors, retreat.arena)

/-- Records that a function does not have an attribute, if that is not settled yet. -/
def refuse (arena : Arena) (config : Config) (function : DeclId) (wanted : Attribute) :
    Except Fault Arena := do
  if (← arena.get function).status config wanted = .undecided then
    arena.modify function fun declaration => declaration.conclude wanted false
  else
    return arena

/-- Takes an attribute of a function back, with everything that follows from it.  The answer is an
error for each function in which the attribute is written. -/
def downgrade (arena : Arena) (config : Config) (function : DeclId) (wanted : Attribute)
    (cause : Option Effect) : Except Fault (List DeclError × Arena) := do
  let function ← arena.aliasedFunction function
  match ← arena.withdraw function wanted cause with
  | (.violated error, arena) => return ([error], arena)
  | (.dropped, arena) => arena.downgradeCallers function wanted
  | (.nothing, arena) => return ([], ← arena.refuse config function wanted)

end Arena

end Declarations
