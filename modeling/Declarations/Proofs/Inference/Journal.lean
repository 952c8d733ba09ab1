import Declarations.Inference.Session
import Declarations.Proofs.Answer

/-!
# The journal of an inference

The state of an inference changes in two ways only: a question is opened, or the newest questions
are settled.  The functions of this file are those of inference with a journal of these events, and
of the session to which each of them led.  Without the journal they are the same functions, so what
the journal tells about a walk is what happens in it.
-/

namespace Declarations

namespace Session

/-- What inference does with its open questions. -/
inductive Event where
  | opened (frame : Frame)
  /-- The questions from a place of the stack on are settled. -/
  | settled (place : Nat) (holds : Bool)
  deriving DecidableEq

structure Moment where
  event : Event
  after : Session

abbrev Journal := List Moment

def Event.perform (session : Session) : Event → Except Fault Session
  | opened frame => .ok (session.push frame)
  | settled place holds => session.settleFrom place holds

def Event.frame? : Event → Option Frame
  | opened frame => some frame
  | settled _ _ => none

namespace Journal

def entered (journal : Journal) : List Frame :=
  journal.filterMap fun moment => moment.event.frame?

/-- The moments of the journal are moves from one session to another. -/
inductive Tells (moves : Session → Moment → Prop) : Session → Journal → Session → Prop where
  | nil {session : Session} : Tells moves session [] session
  | cons {before after : Session} {moment : Moment} {journal : Journal}
      (move : moves before moment) (rest : Tells moves moment.after journal after) :
      Tells moves before (moment :: journal) after

variable {moves others : Session → Moment → Prop} {before middle after : Session}
variable {moment : Moment} {first second journal : Journal}

theorem entered_cons (moment : Moment) (journal : Journal) :
    entered (moment :: journal) = moment.event.frame?.toList ++ journal.entered := by
  cases hframe : moment.event.frame? <;> simp [entered, hframe]

theorem Tells.append (hfirst : Tells moves before first middle)
    (hsecond : Tells moves middle second after) : Tells moves before (first ++ second) after := by
  induction hfirst with
  | nil => exact hsecond
  | cons hmove _ ih => exact .cons hmove (ih hsecond)

/-- A journal that ends with a move. -/
theorem Tells.concat (htells : Tells moves before journal middle) (hmove : moves middle moment) :
    Tells moves before (journal ++ [moment]) moment.after :=
  htells.append (.cons hmove .nil)

theorem Tells.mono (hmoves : ∀ session moment, moves session moment → others session moment)
    (htells : Tells moves before journal after) : Tells others before journal after := by
  induction htells with
  | nil => exact .nil
  | cons hmove _ ih => exact .cons (hmoves _ _ hmove) ih

/-- What every move keeps is kept to the end, and holds at every moment. -/
theorem Tells.keeps (holds : Session → Prop)
    (hstep : ∀ session moment, holds session → moves session moment → holds moment.after)
    (htells : Tells moves before journal after) (hbefore : holds before) :
    holds after ∧ ∀ moment ∈ journal, holds moment.after := by
  induction htells with
  | nil => exact ⟨hbefore, by simp⟩
  | cons hmove _ ih =>
    have hmiddle := hstep _ _ hbefore hmove
    obtain ⟨hafter, hmoments⟩ := ih hmiddle
    exact ⟨hafter, List.forall_mem_cons.mpr ⟨hmiddle, hmoments⟩⟩

end Journal

/-! ## Inference with a journal -/

abbrev Journaled (Answer : Type) := (Answer × Session) × Journal

def judgeEffectJournal (look : Session → DeclId → Except Fault (Journaled Verdict))
    (wanted : Attribute) (session : Session) (effect : Effect) :
    Except Fault (Journaled Verdict) := do
  match effect.callee? with
  | some callee =>
      let function ← session.arena.aliasedFunction callee
      if (← session.arena.get function).isFunction then
        look session function
      else
        return ((.fails, session), [])
  | none => return ((.settled !(← session.arena.breaksDirectly wanted effect), session), [])

def judgeEffectsJournal (look : Session → DeclId → Except Fault (Journaled Verdict))
    (wanted : Attribute) :
    Session → Option Nat → List Effect → Except Fault (Journaled Verdict)
  | session, relies, [] => .ok ((.holds relies, session), [])
  | session, relies, effect :: rest => do
      match ← judgeEffectJournal look wanted session effect with
      | ((.fails, session), journal) => return ((.fails, session), journal)
      | ((.holds further, session), journal) =>
          let (answer, later) ←
            judgeEffectsJournal look wanted session (Verdict.oldest relies further) rest
          return (answer, journal ++ later)

def enterJournal (config : Config) (wanted : Attribute) :
    Nat → Session → DeclId → Except Fault (Journaled Verdict)
  | 0, _, _ => .error .unfinished
  | levels + 1, session, function => do
      let declaration ← session.arena.get function
      match declaration.status config wanted with
      | .holds => return ((.holds none, session), [])
      | .fails => return ((.fails, session), [])
      | .undecided =>
          match session.stack.place? ⟨function, wanted⟩ with
          | some place => return ((.holds (some place), session), [])
          | none =>
              let depth := session.stack.depth
              let opened := session.push ⟨function, wanted⟩
              let effects := (declaration.asFunc?.map Func.effects).getD []
              let (answer, later) ←
                judgeEffectsJournal (enterJournal config wanted levels) wanted opened none effects
              let journal := ⟨.opened ⟨function, wanted⟩, opened⟩ :: later
              match answer with
              | (.fails, session) =>
                  let after ← session.settleFrom depth false
                  return ((.fails, after), journal ++ [⟨.settled depth false, after⟩])
              | (.holds relies, session) =>
                  if isSelfContained depth relies then
                    let after ← session.settleFrom depth true
                    return ((.holds none, after), journal ++ [⟨.settled depth true, after⟩])
                  else
                    return ((.holds relies, session), journal)

def judgeJournal (config : Config) (wanted : Attribute) (session : Session) (function : DeclId) :
    Except Fault (Journaled Verdict) :=
  enterJournal config wanted (session.arena.size + 1) session function

def inferJournal (config : Config) (session : Session) (function : DeclId) (wanted : Attribute) :
    Except Fault (Journaled Bool) := do
  let function ← session.arena.aliasedFunction function
  let ((verdict, session), journal) ← session.judgeJournal config wanted function
  return ((verdict.isPositive, session), journal)

/-! ## Without the journal -/

section Forget

variable {look : Session → DeclId → Except Fault (Journaled Verdict)}
variable {judge : Session → DeclId → Except Fault (Verdict × Session)} {wanted : Attribute}

theorem map_judgeEffectJournal
    (hlook : ∀ session function, (look session function).map Prod.fst = judge session function)
    (session : Session) (effect : Effect) :
    (judgeEffectJournal look wanted session effect).map Prod.fst =
      judgeEffect judge wanted session effect := by
  unfold judgeEffectJournal judgeEffect
  cases effect.callee? with
  | none => cases session.arena.breaksDirectly wanted effect <;> rfl
  | some callee =>
    simp only
    cases session.arena.aliasedFunction callee with
    | error fault => rfl
    | ok function =>
      cases hget : session.arena.get function with
      | error fault => simp [hget]
      | ok declaration =>
        cases hfunction : declaration.isFunction <;> simp [hget, hfunction, hlook]

theorem map_judgeEffectsJournal
    (hlook : ∀ session function, (look session function).map Prod.fst = judge session function)
    (session : Session) (relies : Option Nat) (effects : List Effect) :
    (judgeEffectsJournal look wanted session relies effects).map Prod.fst =
      judgeEffects judge wanted session relies effects := by
  induction effects generalizing session relies with
  | nil => rfl
  | cons effect effects ih =>
    rw [judgeEffectsJournal, judgeEffects, ← map_judgeEffectJournal hlook session effect, map_bind]
    cases judgeEffectJournal look wanted session effect with
    | error fault => rfl
    | ok answer =>
      obtain ⟨⟨verdict, middle⟩, journal⟩ := answer
      cases verdict with
      | fails => rfl
      | holds further =>
        simp only [ok_bind]
        rw [← ih middle (Verdict.oldest relies further)]
        cases judgeEffectsJournal look wanted middle (Verdict.oldest relies further) effects <;> rfl

theorem map_enterJournal (config : Config) (wanted : Attribute) (levels : Nat) (session : Session)
    (function : DeclId) :
    (enterJournal config wanted levels session function).map Prod.fst =
      enter config wanted levels session function := by
  induction levels generalizing session function with
  | zero => rfl
  | succ levels ih =>
    rw [enterJournal, enter]
    cases session.arena.get function with
    | error fault => rfl
    | ok declaration =>
      simp only [ok_bind]
      cases declaration.status config wanted with
      | holds => rfl
      | fails => rfl
      | undecided =>
        cases session.stack.place? ⟨function, wanted⟩ with
        | some place => rfl
        | none =>
          simp only
          rw [← map_judgeEffectsJournal ih, map_bind]
          cases judgeEffectsJournal (enterJournal config wanted levels) wanted
            (session.push ⟨function, wanted⟩) none
            ((declaration.asFunc?.map Func.effects).getD []) with
          | error fault => rfl
          | ok answer =>
            obtain ⟨⟨verdict, middle⟩, later⟩ := answer
            simp only [ok_bind]
            cases verdict with
            | fails => cases hafter : middle.settleFrom session.stack.depth false <;> simp [hafter]
            | holds relies =>
              cases hself : isSelfContained session.stack.depth relies with
              | true =>
                cases hafter : middle.settleFrom session.stack.depth true <;> simp [hself, hafter]
              | false => simp [hself]

/-- What is recorded about an answer does not change it. -/
theorem map_inferJournal (config : Config) (session : Session) (function : DeclId)
    (wanted : Attribute) :
    (inferJournal config session function wanted).map Prod.fst =
      infer config session function wanted := by
  rw [inferJournal, infer]
  cases session.arena.aliasedFunction function with
  | error fault => rfl
  | ok target =>
    rw [ok_bind, ok_bind, judgeJournal, judge, ← map_enterJournal, map_bind]
    cases enterJournal config wanted (session.arena.size + 1) session target <;> rfl

end Forget

end Session

end Declarations
