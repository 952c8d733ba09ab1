import Declarations.Arena.Placement

/-!
# References into enclosing frames

A nested function may refer to the locals of the functions around it.  Such a reference is recorded
on both sides: the local knows who refers to it, and its owner knows which of its locals are
referred to.  A nested function may also call the functions that are nested in the same function,
and those remember their callers.  Both need a frame that is in reach: the function that refers has
to be nested in the owner of the frame.
-/

namespace Declarations

/-- Adds a member to a list that has each member once. -/
def addOnce (members : List DeclId) (added : DeclId) : List DeclId :=
  if members.contains added then members else members ++ [added]

namespace Arena

/-- Whether `owner` is `function` or one of the functions around it, of which at most `steps` are
looked at. -/
def enclosedWithin (arena : Arena) (owner : DeclId) : Nat → DeclId → Except Fault Bool
  | 0, _ => .ok false
  | steps + 1, function => do
      if function = owner then
        return true
      else
        match (← arena.get function).localTo? with
        | some outer => enclosedWithin arena owner steps outer
        | none => return false

/-- Whether `function` is `owner` or nested in it, at any depth. -/
def isWithin (arena : Arena) (function owner : DeclId) : Except Fault Bool :=
  arena.enclosedWithin owner (arena.size + 1) function

/-- Whether `function` checks one of the contracts of `owner`.  Such a function runs inside the
frame of `owner`. -/
def isContractOf (arena : Arena) (function owner : DeclId) : Except Fault Bool := do
  return (← arena.asFunc? owner).any fun state =>
    state.inChecker = some function || state.outChecker = some function

/-- Whether a local is found without the frame of its owner. -/
def needsNoFrame (declaration : Declaration) : Bool :=
  declaration.hasStaticStorage || declaration.storage.contains .manifest

/-- Records that `user` refers to the local `used`.  The answer says whether the reference goes to
the frame of another function.  The owner does not count references from its contracts. -/
def recordVariableUse (arena : Arena) (used user : DeclId) (span : Span) :
    Except Fault (Except DeclError Bool × Arena) := do
  let declaration ← arena.get used
  match declaration.localTo? with
  | none => return (.ok false, arena)
  | some owner =>
      if owner = user || needsNoFrame declaration then
        return (.ok false, arena)
      else if !(← arena.isWithin user owner) then
        return (.error (.cannotAccessFrame used user span), arena)
      else
        let referred ← arena.modifyVariable used fun state =>
          { state with nestedReferences := addOnce state.nestedReferences user }
        if ← referred.isContractOf user owner then
          return (.ok true, referred)
        else
          let captured ← referred.modifyFunc owner fun state =>
            { state with captured := addOnce state.captured used }
          return (.ok true, captured)

/-- Records that `caller` refers to the function `callee`.  A nested function remembers every caller
other than itself and the function around it. -/
def recordFunctionUse (arena : Arena) (callee caller : DeclId) (span : Span) :
    Except Fault (Except DeclError Unit × Arena) := do
  let callee ← arena.aliasedFunction callee
  if !(← arena.isNested callee) then
    return (.ok (), arena)
  else
    match (← arena.get callee).localTo? with
    | none => return (.ok (), arena)
    | some owner =>
        if owner = caller then
          return (.ok (), arena)
        else if ← arena.isContractOf callee owner then
          return (.ok (), arena)
        else if !(← arena.isWithin caller owner) then
          return (.error (.cannotAccessFrame callee caller span), arena)
        else if caller = callee then
          return (.ok (), arena)
        else
          let arena ← arena.modifyFunc callee fun state =>
            { state with siblingCallers := addOnce state.siblingCallers caller }
          return (.ok (), arena)

end Arena

end Declarations
