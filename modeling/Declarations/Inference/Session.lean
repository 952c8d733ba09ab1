import Declarations.Inference.Status

/-!
# Inference

Whether a function has an attribute depends on the functions that it calls, which may call it back.
Inference goes through the calls depth first and keeps every function that it has entered and not
settled on a stack.  A call of a function on the stack is taken to be fine.  A function that relied
on that stays on the stack until the function on which it relied is done, so all functions of a
cycle of calls are settled together: the attribute holds for all of them, or, as soon as it fails
for one, for none.  What is settled is recorded in the declarations and never looked into again.
-/

namespace Declarations

/-- A question about a function that is being worked on. -/
structure Frame where
  function : DeclId
  wanted : Attribute
  deriving DecidableEq

/-- The open questions, and a table of the places at which they stand. -/
structure FrameStack where
  /-- The questions, the oldest one first. -/
  frames : List Frame := []
  /-- The place of each question, the latest one first. -/
  places : List (Frame × Nat) := []
  deriving DecidableEq

namespace FrameStack

def depth (stack : FrameStack) : Nat :=
  stack.frames.length

def place? (stack : FrameStack) (frame : Frame) : Option Nat :=
  stack.places.lookup frame

def push (stack : FrameStack) (frame : Frame) : FrameStack where
  frames := stack.frames ++ [frame]
  places := (frame, stack.depth) :: stack.places

def above (stack : FrameStack) (depth : Nat) : List Frame :=
  stack.frames.drop depth

def cut (stack : FrameStack) (depth : Nat) : FrameStack where
  frames := stack.frames.take depth
  places := stack.places.filter fun entry => entry.1 ∉ stack.above depth

end FrameStack

/-- The state of the inference of attributes. -/
structure Session where
  arena : Arena
  stack : FrameStack := {}

/-- What looking into a function, or at an effect, has shown. -/
inductive Verdict where
  | fails
  /-- The attribute holds if it holds for the open questions from the given place on; without a
  place it holds for good. -/
  | holds (relies : Option Nat)
  deriving DecidableEq

namespace Verdict

/-- A verdict that relies on nothing. -/
def settled (holds : Bool) : Verdict :=
  if holds then .holds none else .fails

def isPositive : Verdict → Bool
  | fails => false
  | holds _ => true

/-- The oldest of two places on which verdicts rely. -/
def oldest : Option Nat → Option Nat → Option Nat
  | none, right => right
  | left, none => left
  | some left, some right => some (min left right)

end Verdict

namespace Session

def isOpen (session : Session) (function : DeclId) (wanted : Attribute) : Bool :=
  (session.stack.place? ⟨function, wanted⟩).isSome

def push (session : Session) (frame : Frame) : Session :=
  { session with stack := session.stack.push frame }

def concludeAll (holds : Bool) : Arena → List Frame → Except Fault Arena
  | arena, [] => .ok arena
  | arena, frame :: rest => do
      let concluded ← arena.modify frame.function fun declaration =>
        declaration.conclude frame.wanted holds
      concludeAll holds concluded rest

/-- Settles every open question from a place of the stack on. -/
def settleFrom (session : Session) (depth : Nat) (holds : Bool) : Except Fault Session := do
  let arena ← concludeAll holds session.arena (session.stack.above depth)
  return { arena, stack := session.stack.cut depth }

/-- Looks at one effect, where `enter` looks into a function.  A call of something that is no
function is never fine. -/
def judgeEffect (enter : Session → DeclId → Except Fault (Verdict × Session)) (wanted : Attribute)
    (session : Session) (effect : Effect) : Except Fault (Verdict × Session) := do
  match effect.callee? with
  | some callee =>
      let function ← session.arena.aliasedFunction callee
      if (← session.arena.get function).isFunction then
        enter session function
      else
        return (.fails, session)
  | none => return (.settled !(← session.arena.breaksDirectly wanted effect), session)

/-- Looks at effects until one of them breaks the attribute.  The verdict relies on the oldest place
on which one of them does. -/
def judgeEffects (enter : Session → DeclId → Except Fault (Verdict × Session))
    (wanted : Attribute) :
    Session → Option Nat → List Effect → Except Fault (Verdict × Session)
  | session, relies, [] => .ok (.holds relies, session)
  | session, relies, effect :: rest => do
      match ← judgeEffect enter wanted session effect with
      | (.fails, session) => return (.fails, session)
      | (.holds further, session) =>
          judgeEffects enter wanted session (Verdict.oldest relies further) rest

/-- Whether a verdict for the question at a place of the stack relies on nothing older. -/
def isSelfContained (depth : Nat) : Option Nat → Bool
  | none => true
  | some oldest => depth ≤ oldest

/-- Looks into a function.  Every level below another one has an open question of its own, so
`levels` is never used up if there are more levels than functions. -/
def enter (config : Config) (wanted : Attribute) :
    Nat → Session → DeclId → Except Fault (Verdict × Session)
  | 0, _, _ => .error .unfinished
  | levels + 1, session, function => do
      let declaration ← session.arena.get function
      match declaration.status config wanted with
      | .holds => return (.holds none, session)
      | .fails => return (.fails, session)
      | .undecided =>
          match session.stack.place? ⟨function, wanted⟩ with
          | some place => return (.holds (some place), session)
          | none =>
              let depth := session.stack.depth
              let opened := session.push ⟨function, wanted⟩
              let effects := (declaration.asFunc?.map Func.effects).getD []
              match ← judgeEffects (enter config wanted levels) wanted opened none effects with
              | (.fails, session) => return (.fails, ← session.settleFrom depth false)
              | (.holds relies, session) =>
                  if isSelfContained depth relies then
                    return (.holds none, ← session.settleFrom depth true)
                  else
                    return (.holds relies, session)

/-- Looks into a function, however deep its calls go. -/
def judge (config : Config) (wanted : Attribute) (session : Session) (function : DeclId) :
    Except Fault (Verdict × Session) :=
  enter config wanted (session.arena.size + 1) session function

def infer (config : Config) (session : Session) (function : DeclId) (wanted : Attribute) :
    Except Fault (Bool × Session) := do
  let function ← session.arena.aliasedFunction function
  let (verdict, session) ← session.judge config wanted function
  return (verdict.isPositive, session)

def inferEach (config : Config) (function : DeclId) :
    Session → List Attribute → Except Fault (Attributes × Session)
  | session, [] => .ok (∅, session)
  | session, wanted :: rest => do
      let (holds, session) ← session.infer config function wanted
      let (others, session) ← inferEach config function session rest
      return (if holds then insert wanted others else others, session)

def inferAll (config : Config) (session : Session) (function : DeclId) :
    Except Fault (Attributes × Session) :=
  inferEach config function session Flag.all

/-- Whether an effect breaks an attribute, looking into the function that it calls. -/
def breaks (config : Config) (session : Session) (wanted : Attribute) (effect : Effect) :
    Except Fault (Bool × Session) := do
  let (verdict, session) ← judgeEffect (judge config wanted) wanted session effect
  return (!verdict.isPositive, session)

end Session

end Declarations
