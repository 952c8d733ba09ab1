import Declarations.Inference.Verification
import Declarations.Proofs.Inference.Traversal

/-!
# Queries

A query asks for attributes and changes nothing but what is recorded about them.  Since each group
of functions is settled rightly, a query leaves it as it was which functions have an attribute, so
the answers of all later queries stay the same: what is answered is the greatest fixed point of the
arena with which the queries began, in whatever order they are made.
-/

namespace Declarations

open Relation

namespace Arena

/-- What is known about the attributes grows by settling groups. -/
def Grows (config : Config) : Arena → Arena → Prop :=
  ReflTransGen fun before after => ∃ wanted, Settles config wanted before after

variable {arena before after : Arena} {config : Config} {wanted : Attribute}

theorem Learns.grows (hlearns : Learns config wanted before after) : Grows config before after :=
  ReflTransGen.mono (fun _ _ hsettles => ⟨wanted, hsettles⟩) _ _ hlearns

namespace Grows

theorem refl : Grows config arena arena :=
  ReflTransGen.refl

theorem trans {middle : Arena} (hfirst : Grows config before middle)
    (hsecond : Grows config middle after) : Grows config before after :=
  ReflTransGen.trans hfirst hsecond

theorem outline_eq (hgrows : Grows config before after) : after.keep ∅ = before.keep ∅ := by
  induction hgrows with
  | refl => rfl
  | tail _ hstep ih =>
    obtain ⟨other, hsettles⟩ := hstep
    rw [hsettles.keep_eq (FlagSet.not_mem_empty other), ih]

theorem size_eq (hgrows : Grows config before after) : after.size = before.size :=
  size_of_keep_eq hgrows.outline_eq

theorem aliasedFunction_eq (hgrows : Grows config before after) (id : DeclId) :
    after.aliasedFunction id = before.aliasedFunction id :=
  aliasedFunction_of_keep_eq hgrows.outline_eq id

/-- What is learned changes for no attribute which functions have it. -/
theorem entitled_eq (hgrows : Grows config before after) (wanted : Attribute) :
    after.entitled config wanted = before.entitled config wanted := by
  induction hgrows with
  | refl => rfl
  | tail _ hstep ih =>
    obtain ⟨other, hsettles⟩ := hstep
    rw [(Learns.refl.step hsettles).entitled_eq wanted, ih]

end Grows

/-- Two functions that depend on each other have the same attributes. -/
theorem entitled_iff_of_cycle {function other : DeclId}
    (hthere : ReflTransGen (arena.DependsOn config wanted) function other)
    (hback : ReflTransGen (arena.DependsOn config wanted) other function) :
    other ∈ arena.entitled config wanted ↔ function ∈ arena.entitled config wanted :=
  ⟨entitled_of_reaches hback, entitled_of_reaches hthere⟩

end Arena

namespace Session

open Arena

/-- No question is open, and the arena is closed. -/
structure Idle (session : Session) : Prop where
  stack_eq : session.stack = {}
  closed : session.arena.Closed

variable {session : Session} {config : Config} {wanted : Attribute}

theorem Idle.working (hidle : session.Idle) : Working config wanted session [] where
  frames_eq := by simp [hidle.stack_eq]
  indexed := by
    rw [hidle.stack_eq]
    exact FrameStack.indexed_empty
  nodup := List.nodup_nil
  undecided := by simp
  closed := hidle.closed

theorem Working.idle (hworking : Working config wanted session []) : session.Idle where
  stack_eq := hworking.indexed.eq_empty (by simp [hworking.frames_eq])
  closed := hworking.closed

/-- How a question came out that was asked when no other one was open.  With no open question to
rely on, the answer is final. -/
structure Answered (config : Config) (wanted : Attribute) (before : Session)
    (fine : Set DeclId → Prop) (holds : Bool) (after : Session) : Prop where
  idle : after.Idle
  learns : Learns config wanted before.arena after.arena
  sound : holds = true → fine (after.arena.withStatus config wanted .holds)
  broken : holds = false → ¬fine (after.arena.withStatus config wanted .holds ∪
    after.arena.withStatus config wanted .undecided)

/-- Without open questions a verdict is an answer. -/
theorem Outcome.answered {fine : Set DeclId → Prop} {sources : Set DeclId} {verdict : Verdict}
    {after : Session}
    (houtcome : Outcome config wanted session.arena [] fine sources verdict after) :
    Answered config wanted session fine verdict.isPositive after := by
  cases houtcome with
  | fails learns working broken => exact ⟨working.idle, learns, nofun, fun _ => broken⟩
  | holds learns working sound => exact ⟨working.idle, learns, fun _ => sound, nofun⟩
  | relies learns working place_eq => simp at place_eq

/-- The answer agrees with the greatest fixed point. -/
theorem Answered.holds_iff {fine : Set DeclId → Prop} {holds : Bool} {after : Session}
    (hanswered : Answered config wanted session fine holds after)
    (hmono : ∀ {smaller larger : Set DeclId}, smaller ⊆ larger → fine smaller → fine larger) :
    holds = true ↔ fine (session.arena.entitled config wanted) := by
  rw [← hanswered.learns.entitled_eq wanted]
  constructor
  · intro hholds
    exact hmono Set.subset_union_left (hanswered.sound hholds)
  · intro hfine
    by_contra hnot
    exact hanswered.broken (by simpa using hnot) (hmono entitled_subset hfine)

theorem judgeJournal_answered (config : Config) (wanted : Attribute) (hidle : session.Idle)
    {function : DeclId} (hfunction : function.number < session.arena.size) :
    ∃ verdict after journal,
      session.judgeJournal config wanted function = .ok ((verdict, after), journal) ∧
      Answered config wanted session (function ∈ ·) verdict.isPositive after ∧
      journal.Tells (Moves config wanted {function}) session after := by
  obtain ⟨verdict, after, journal, hrun, houtcome, htells⟩ := enterJournal_looksRightly config
    wanted {function} (session.arena.size + 1) hidle.working hfunction (by simp) (by simp) (by simp)
  exact ⟨verdict, after, journal, hrun, houtcome.answered, htells⟩

/-- The answer of a question about a function, with what happened on the way to it. -/
theorem inferJournal_answered (config : Config) (wanted : Attribute) (hidle : session.Idle)
    {function : DeclId} (hfunction : function.number < session.arena.size) :
    ∃ target holds after journal, session.arena.aliasedFunction function = .ok target ∧
      target.number < session.arena.size ∧
      session.inferJournal config function wanted = .ok ((holds, after), journal) ∧
      Answered config wanted session (target ∈ ·) holds after ∧
      journal.Tells (Moves config wanted {target}) session after := by
  obtain ⟨target, halias, htarget⟩ := hidle.closed.aliasedFunction hfunction
  obtain ⟨verdict, after, journal, hjudge, hanswered, htells⟩ :=
    judgeJournal_answered config wanted hidle htarget
  exact ⟨target, verdict.isPositive, after, journal, halias, htarget,
    by simp [inferJournal, halias, hjudge], hanswered, htells⟩

/-- The answer of a question about a function. -/
theorem infer_answered (config : Config) (wanted : Attribute) (hidle : session.Idle)
    {function : DeclId} (hfunction : function.number < session.arena.size) :
    ∃ target holds after, session.arena.aliasedFunction function = .ok target ∧
      target.number < session.arena.size ∧
      session.infer config function wanted = .ok (holds, after) ∧
      Answered config wanted session (target ∈ ·) holds after := by
  obtain ⟨target, holds, after, journal, halias, htarget, hrun, hanswered, -⟩ :=
    inferJournal_answered config wanted hidle hfunction
  refine ⟨target, holds, after, halias, htarget, ?_, hanswered⟩
  rw [← map_inferJournal, hrun, ok_map]

/-- The answer of a question about an effect. -/
theorem breaks_answered (config : Config) (wanted : Attribute) (hidle : session.Idle)
    {effect : Effect} (heffect : ∀ handle ∈ effect.handles, handle.number < session.arena.size) :
    ∃ broken after, session.breaks config wanted effect = .ok (broken, after) ∧
      Answered config wanted session (session.arena.Allows wanted · effect) (!broken) after := by
  have hlook : LooksRightly config wanted Set.univ (session.arena.size + 1)
      (enterJournal config wanted (session.arena.size + 1)) :=
    enterJournal_looksRightly config wanted Set.univ _
  -- A call is judged in the arena of the session, which no earlier effect has changed.
  obtain ⟨verdict, after, journal, hrun, houtcome, -⟩ := judgeEffect_outcome hlook hidle.working
    heffect (by simp) (by simp) (by simp)
  refine ⟨!verdict.isPositive, after, ?_, by simpa using houtcome.answered⟩
  have hsame : judgeEffect (judge config wanted) wanted session effect =
      judgeEffect (enter config wanted (session.arena.size + 1)) wanted session effect := rfl
  have hplain : judgeEffect (judge config wanted) wanted session effect =
      .ok (verdict, after) := by
    rw [hsame, ← map_judgeEffectJournal (map_enterJournal config wanted _), hrun, ok_map]
  simp [breaks, hplain]

/-! ## Sequences of questions -/

/-- What a query leaves behind: no open question, and an arena in which more is known. -/
structure Follows (config : Config) (before after : Session) : Prop where
  idle : after.Idle
  grows : Grows config before.arena after.arena

theorem Idle.follows (hidle : session.Idle) : Follows config session session :=
  ⟨hidle, .refl⟩

theorem Follows.trans {before middle after : Session} (hfirst : Follows config before middle)
    (hsecond : Follows config middle after) : Follows config before after :=
  ⟨hsecond.idle, hfirst.grows.trans hsecond.grows⟩

theorem Answered.follows {fine : Set DeclId → Prop} {holds : Bool} {after : Session}
    (hanswered : Answered config wanted session fine holds after) :
    Follows config session after :=
  ⟨hanswered.idle, hanswered.learns.grows⟩

theorem inferEach_follows (config : Config) (hidle : session.Idle) {function : DeclId}
    (hfunction : function.number < session.arena.size) (attributes : List Attribute) :
    ∃ held after, inferEach config function session attributes = .ok (held, after) ∧
      Follows config session after := by
  induction attributes generalizing session with
  | nil => exact ⟨∅, session, rfl, hidle.follows⟩
  | cons wanted attributes ih =>
    obtain ⟨target, holds, middle, -, -, hinfer, hanswered⟩ :=
      infer_answered config wanted hidle hfunction
    have hmiddle := hanswered.follows
    obtain ⟨held, after, hrest, hafter⟩ := ih hmiddle.idle (by rwa [hmiddle.grows.size_eq])
    refine ⟨if holds then insert wanted held else held, after, ?_, hmiddle.trans hafter⟩
    simp [inferEach, hinfer, hrest]

theorem inferAll_follows (config : Config) (hidle : session.Idle) {function : DeclId}
    (hfunction : function.number < session.arena.size) :
    ∃ held after, session.inferAll config function = .ok (held, after) ∧
      Follows config session after :=
  inferEach_follows config hidle hfunction Flag.all

theorem violations_follows (config : Config) (function : DeclId) (wanted : Attribute)
    (hidle : session.Idle) {effects : List Effect}
    (heffects : ∀ effect ∈ effects, ∀ handle ∈ effect.handles,
      handle.number < session.arena.size) :
    ∃ errors after, violations config function wanted session effects = .ok (errors, after) ∧
      Follows config session after := by
  induction effects generalizing session with
  | nil => exact ⟨[], session, rfl, hidle.follows⟩
  | cons effect effects ih =>
    obtain ⟨broken, middle, hbreaks, hanswered⟩ := breaks_answered config wanted hidle
      (heffects effect List.mem_cons_self)
    have hmiddle := hanswered.follows
    obtain ⟨errors, after, hrest, hafter⟩ := ih hmiddle.idle (by
      rw [hmiddle.grows.size_eq]
      exact fun other hother => heffects other (List.mem_cons_of_mem effect hother))
    refine ⟨if broken then .attributeViolation function wanted (some effect) :: errors else errors,
      after, ?_, hmiddle.trans hafter⟩
    simp [violations, hbreaks, hrest]

theorem violationsOfEach_follows (config : Config) (function : DeclId) (hidle : session.Idle)
    {effects : List Effect}
    (heffects : ∀ effect ∈ effects, ∀ handle ∈ effect.handles,
      handle.number < session.arena.size) (attributes : List Attribute) :
    ∃ errors after, violationsOfEach config function effects session attributes =
      .ok (errors, after) ∧ Follows config session after := by
  induction attributes generalizing session with
  | nil => exact ⟨[], session, rfl, hidle.follows⟩
  | cons wanted attributes ih =>
    obtain ⟨errors, middle, hfirst, hmiddle⟩ := violations_follows config function wanted
      hidle heffects
    obtain ⟨later, after, hrest, hafter⟩ := ih hmiddle.idle (by
      rw [hmiddle.grows.size_eq]
      exact heffects)
    exact ⟨errors ++ later, after, by simp [violationsOfEach, hfirst, hrest],
      hmiddle.trans hafter⟩

theorem verify_follows (config : Config) (hidle : session.Idle) {function : DeclId}
    (hfunction : function.number < session.arena.size) :
    ∃ errors after, session.verify config function = .ok (errors, after) ∧
      Follows config session after := by
  obtain ⟨declaration, hget⟩ := exists_get hfunction
  cases hfunc : declaration.asFunc? with
  | none => exact ⟨[], session, by simp [verify, hget, hfunc], hidle.follows⟩
  | some state =>
    obtain ⟨errors, after, hrun, hafter⟩ := violationsOfEach_follows config function hidle
      (fun effect heffect handle hhandle => hidle.closed.lt_of_mem_handles hget
        (mem_handles_of_effect hfunc heffect hhandle))
      ((Flag.all : List Attribute).filter (declaration.isWritten state))
    exact ⟨errors, after, by simp [verify, hget, hfunc, hrun], hafter⟩

end Session

end Declarations
