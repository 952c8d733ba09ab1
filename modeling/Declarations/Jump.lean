import Declarations.Arena.Basic

/-!
# Jumps

Every local remembers the one that is declared before it, so the locals that are in scope at a place
form a chain from the last one back to the start of the function.  A jump must not enter the scope
of a local whose initializer is needed: every local in scope at the label, but not at the jump, has
to be one that can be skipped.
-/

namespace Declarations

/-- A place in the body of a function, as the last local that is in scope there. -/
structure ScopeCursor where
  last : Option DeclId := none
  deriving DecidableEq

/-- Whether nobody can tell that the declaration was jumped over. -/
def Declaration.canBeSkipped (declaration : Declaration) : Bool :=
  declaration.storage.contains .manifest || declaration.hasStaticStorage ||
    (!declaration.storage.contains .expTemp &&
      !declaration.asVariable?.any Variable.hasNontrivialInitializer)

def Declaration.previous? (declaration : Declaration) : Option DeclId :=
  declaration.asVariable?.bind Variable.previous

namespace Arena

/-- Declares a local after those that are in scope.  Declarations of other kinds are in no chain. -/
def declareVariable (arena : Arena) (cursor : ScopeCursor) (declared : DeclId) :
    Except Fault (ScopeCursor × Arena) := do
  match ← arena.asVariable? declared with
  | none => return (cursor, arena)
  | some _ =>
      let arena ← arena.modifyVariable declared fun state => { state with previous := cursor.last }
      return ({ last := some declared }, arena)

/-- The locals in scope where `last` is the last one, after those in `passed`.  A chain that comes
back to itself ends there. -/
def scopeChain (arena : Arena) : Nat → List DeclId → Option DeclId → Except Fault (List DeclId)
  | 0, _, _ => .error .unfinished
  | _ + 1, passed, none => .ok passed
  | steps + 1, passed, some last =>
      if last ∈ passed then
        .ok passed
      else do
        scopeChain arena steps (last :: passed) (← arena.get last).previous?

/-- The first local from `last` back that cannot be skipped and is not in `visible`. -/
def firstNeeded? (arena : Arena) (visible : List DeclId) :
    Nat → List DeclId → Option DeclId → Except Fault (Option DeclId)
  | 0, _, _ => .error .unfinished
  | _ + 1, _, none => .ok none
  | steps + 1, passed, some last =>
      if last ∈ visible || last ∈ passed then
        .ok none
      else do
        let declaration ← arena.get last
        if !declaration.canBeSkipped then
          return some last
        else
          firstNeeded? arena visible steps (last :: passed) declaration.previous?

/-- Checks a jump from where `source` is the last local in scope to where `target` is. -/
def checkJump (arena : Arena) (source target : Option DeclId) (span : Span) :
    Except Fault (Except DeclError Unit) := do
  let visible ← arena.scopeChain (arena.size + 2) [] source
  match ← arena.firstNeeded? visible (arena.size + 2) [] target with
  | some skipped => return .error (.gotoSkipsInitializer skipped span)
  | none => return .ok ()

/-- Checks a jump to a label of a function, or keeps it until the label is declared. -/
def jumpTo (arena : Arena) (function : DeclId) (jump : PendingJump) :
    Except Fault (Except DeclError Unit × Arena) := do
  match ← arena.asFunc? function with
  | none => return (.ok (), arena)
  | some state =>
      match state.findLabel? jump.label with
      | some place =>
          return (← arena.checkJump jump.lastVariable place.lastVariable jump.span, arena)
      | none =>
          let arena ← arena.modifyFunc function fun state =>
            { state with pendingJumps := state.pendingJumps ++ [jump] }
          return (.ok (), arena)

def findLabel? (arena : Arena) (function : DeclId) (name : Name) :
    Except Fault (Option LabelPlace) := do
  return (← arena.asFunc? function).bind fun state => state.findLabel? name

/-- Declares a label where the cursor stands.  The answer is the place that the label had before. -/
def declareLabel (arena : Arena) (function : DeclId) (name : Name) (span : Span)
    (cursor : ScopeCursor) : Except Fault (Option LabelPlace × Arena) := do
  let replaced ← arena.findLabel? function name
  let arena ← arena.modifyFunc function fun state =>
    state.declareLabel name { span, lastVariable := cursor.last }
  return (replaced, arena)

def checkJumps (arena : Arena) (state : Func) (jumps : List PendingJump) :
    Except Fault (List DeclError) := do
  let found ← jumps.mapM fun jump =>
    match state.findLabel? jump.label with
    | none => .ok none
    | some place => do
        match ← arena.checkJump jump.lastVariable place.lastVariable jump.span with
        | .ok () => return none
        | .error cause => return some cause
  return found.filterMap id

/-- Checks every waiting jump of a function whose label is declared by now; the others go on
waiting. -/
def resolveJumps (arena : Arena) (function : DeclId) : Except Fault (List DeclError × Arena) := do
  match ← arena.asFunc? function with
  | none => return ([], arena)
  | some state =>
      let errors ← arena.checkJumps state state.pendingJumps
      let arena ← arena.modifyFunc function fun state =>
        { state with
          pendingJumps := state.pendingJumps.filter fun jump =>
            (state.findLabel? jump.label).isNone }
      return (errors, arena)

end Arena

end Declarations
