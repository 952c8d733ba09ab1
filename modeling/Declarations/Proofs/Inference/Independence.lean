import Declarations.Proofs.Inference.Violation
import Declarations.Proofs.Nesting.Alike

/-!
# The attributes do not interfere

All attributes of a function share one storage class and one record, and all questions one stack.
Still the work on one attribute is not seen by the others.  It leaves their record alone, and in a
run of any operations, those parts that are about an attribute read and write the record of that
attribute alone.  So what is answered about an attribute does not show whether another one was
worked on before.
-/

namespace Declarations

namespace Operation

/-- Whether the operation infers the attribute or takes it back, and does nothing else. -/
def isAbout (wanted : Attribute) : Operation → Bool
  | infer _ about | downgrade _ about _ => about = wanted
  | inferAll _ | verify _ | recordEffect _ _ | checkClosure _ => false

end Operation

namespace Declaration

structure RecordsAlike (wanted : Attribute) (declaration next : Declaration) : Prop where
  recorded : ∀ state, declaration.asFunc? = some state → ∃ later, next.asFunc? = some later ∧
    (wanted ∈ later.inferred ↔ wanted ∈ state.inferred) ∧
    (wanted ∈ later.concluded ↔ wanted ∈ state.concluded)
  holdsIn_eq : wanted.holdsIn next.storage = wanted.holdsIn declaration.storage

theorem recordsAlike_of_keep_eq {declaration next : Declaration} {kept : Attributes}
    {wanted : Attribute} (hkeep : declaration.keep kept = next.keep kept)
    (hwanted : wanted ∈ kept) : declaration.RecordsAlike wanted next where
  recorded state hfunc := by
    obtain ⟨later, hlater, hsame⟩ := exists_asFunc?_of_keep_eq hkeep hfunc
    exact ⟨later, hlater, (Func.mem_inferred_congr hsame hwanted).symm,
      (Func.mem_concluded_congr hsame hwanted).symm⟩
  holdsIn_eq := by rw [← holdsIn_keep hwanted, ← hkeep, holdsIn_keep hwanted]

end Declaration

namespace Session

open Arena

variable {session left right before middle after : Session} {config rival : Config}
  {wanted other about : Attribute} {function target : DeclId} {effect : Effect}

/-! ## What the work on one attribute leaves alone -/

/-- The work on one attribute leaves the record of the others alone, and no question open. -/
structure LeavesOthers (about : Attribute) (before after : Session) : Prop where
  idle : after.Idle
  keep_eq : ∀ kept : Attributes, about ∉ kept → after.arena.keep kept = before.arena.keep kept

namespace LeavesOthers

theorem refl (hidle : session.Idle) : LeavesOthers about session session :=
  ⟨hidle, fun _ _ => rfl⟩

theorem trans (hfirst : LeavesOthers about before middle)
    (hsecond : LeavesOthers about middle after) : LeavesOthers about before after :=
  ⟨hsecond.idle, fun kept hkept => (hsecond.keep_eq kept hkept).trans (hfirst.keep_eq kept hkept)⟩

theorem size_eq (hleaves : LeavesOthers about before after) :
    after.arena.size = before.arena.size :=
  size_of_keep_eq (hleaves.keep_eq ∅ (FlagSet.not_mem_empty about))

end LeavesOthers

theorem Answered.leavesOthers {fine : Set DeclId → Prop} {holds : Bool}
    (hanswered : Answered config about session fine holds after) :
    LeavesOthers about session after :=
  ⟨hanswered.idle, fun _ => hanswered.learns.keep_eq⟩

theorem Idle.leavesOthers_of_downgraded (hidle : session.Idle) {cause : Option Effect}
    {errors : List DeclError} {arena : Arena}
    (hdowngraded : Downgraded config about target cause session.arena errors arena) :
    LeavesOthers about session { session with arena } :=
  ⟨⟨hidle.stack_eq, closed_of_keep_eq hdowngraded.outline_eq hidle.closed⟩,
    fun _ => hdowngraded.keep_eq⟩

theorem Checked.leavesOthers (hchecked : Checked config function target effect about session after)
    (hidle : session.Idle) : LeavesOthers about session after :=
  ⟨hchecked.idle hidle, fun _ => hchecked.keep_eq⟩

/-- An operation on one attribute leaves the record of the others alone. -/
theorem exists_perform_about (config : Config) (hidle : session.Idle) {operation : Operation}
    (habout : operation.isAbout about = true)
    (hhandles : ∀ handle ∈ operation.handles, handle.number < session.arena.size) :
    ∃ after, session.perform config operation = .ok after ∧ LeavesOthers about session after := by
  cases operation with
  | infer function wanted =>
    obtain rfl : wanted = about := by simpa [Operation.isAbout] using habout
    obtain ⟨target, holds, after, -, -, hinfer, hanswered⟩ :=
      infer_answered config wanted hidle (hhandles function (by simp [Operation.handles]))
    exact ⟨after, by simp [perform, hinfer], hanswered.leavesOthers⟩
  | downgrade function wanted cause =>
    obtain rfl : wanted = about := by simpa [Operation.isAbout] using habout
    obtain ⟨target, errors, arena, -, -, hdowngrade, hdowngraded⟩ := exists_downgraded config
      wanted hidle.closed (hhandles function (by simp [Operation.handles])) cause
    exact ⟨{ session with arena }, by simp [perform, hdowngrade],
      hidle.leavesOthers_of_downgraded hdowngraded⟩
  | inferAll | verify | recordEffect | checkClosure => contradiction

/-- So does a sequence of such operations. -/
theorem exists_run_about (config : Config) (hidle : session.Idle) {operations : List Operation}
    (habout : ∀ operation ∈ operations, operation.isAbout about = true)
    (hhandles : ∀ operation ∈ operations, ∀ handle ∈ operation.handles,
      handle.number < session.arena.size) :
    ∃ after, session.run config operations = .ok after ∧ LeavesOthers about session after := by
  induction operations generalizing session with
  | nil => exact ⟨session, rfl, .refl hidle⟩
  | cons operation operations ih =>
    rw [List.forall_mem_cons] at habout hhandles
    obtain ⟨middle, hperform, hmiddle⟩ := exists_perform_about config hidle habout.1 hhandles.1
    rw [← hmiddle.size_eq] at hhandles
    obtain ⟨after, hrun, hafter⟩ := ih hmiddle.idle habout.2 hhandles.2
    exact ⟨after, by rw [run_cons, hperform, ok_bind, hrun], hmiddle.trans hafter⟩

/-! ## Checks that look alike -/

section Alike

variable {kept : Attributes} (hkeep : left.keep kept = right.keep kept) (hwanted : wanted ∈ kept)
  (hagree : config.inferable.contains wanted = rival.inferable.contains wanted)
include hkeep hwanted hagree

theorem violations_alike (function : DeclId) (effects : List Effect) :
    Alike (Prod.map id (keep kept)) (violations config function wanted left effects)
      (violations rival function wanted right effects) := by
  induction effects generalizing left right with
  | nil => exact .answer hkeep
  | cons effect effects ih =>
    apply (breaks_alike hwanted hagree hkeep effect).bind_answer
    intro broken left right hchecked
    apply (ih hchecked).bind_answer
    intro later left right hrest
    exact .answer hrest

theorem checkNewEffect_alike (function : DeclId) (effect : Effect) :
    Alike (Prod.map id (keep kept)) (left.checkNewEffect config function effect wanted)
      (right.checkNewEffect rival function effect wanted) := by
  apply (get_alike (keep_eq_iff.mp hkeep).1 function).bind
  intro declaration found hsame
  rw [Declaration.status_congr hsame hwanted hagree]
  split
  · exact .answer hkeep
  · apply (breaks_alike hwanted hagree hkeep effect).bind_answer
    intro broken left right hchecked
    obtain ⟨harena, hstack⟩ := keep_eq_iff.mp hchecked
    cases broken with
    | false => exact .answer hchecked
    | true =>
      apply (downgrade_alike harena hwanted hagree function (some effect)).bind_answer
      intro errors _ _ hdowngraded
      exact .answer (keep_eq_iff.mpr ⟨hdowngraded, hstack⟩)

end Alike

/-- An attribute that is left out of a check is one against which nothing is checked. -/
theorem violationsOfEach_filter_cons (function : DeclId) (effects : List Effect)
    (chosen : Attribute → Bool) (attributes : List Attribute) :
    violationsOfEach config function effects session ((about :: attributes).filter chosen) =
      (do
        let (errors, session) ← violations config function about session
          (if chosen about then effects else [])
        let (later, session) ← violationsOfEach config function effects session
          (attributes.filter chosen)
        return (errors ++ later, session)) := by
  rw [List.filter_cons]
  split
  · rfl
  · simp only [violations, ok_bind]
    cases violationsOfEach config function effects session (attributes.filter chosen) <;> rfl

/-! ## Sessions that agree on an attribute -/

/-- Two sessions without open questions, over arenas of the given size, have the same record of an
attribute. -/
structure AgreeOn (wanted : Attribute) (size : Nat) (left right : Session) : Prop where
  left_idle : left.Idle
  right_idle : right.Idle
  size_eq : right.arena.size = size
  keep_eq : left.arena.keep {wanted} = right.arena.keep {wanted}

namespace AgreeOn

variable {size : Nat} (hagrees : AgreeOn wanted size left right)
include hagrees

theorem session_keep_eq : left.keep {wanted} = right.keep {wanted} :=
  keep_eq_iff.mpr ⟨hagrees.keep_eq,
    hagrees.left_idle.stack_eq.trans hagrees.right_idle.stack_eq.symm⟩

theorem left_size_eq : left.arena.size = size :=
  (size_of_keep_eq hagrees.keep_eq).trans hagrees.size_eq

/-- Work on one attribute in both sessions keeps up the agreement: about the attribute in question,
because the same is done in both, and about another one, because the record is left alone. -/
theorem step {answers : Type} {first second : answers} (hleft : LeavesOthers about left afterLeft)
    (hright : LeavesOthers about right afterRight)
    (hsame : about = wanted → first = second ∧
      afterLeft.arena.keep {wanted} = afterRight.arena.keep {wanted}) :
    AgreeOn wanted size afterLeft afterRight ∧ (about = wanted → first = second) := by
  have hsize : afterRight.arena.size = size := hright.size_eq.trans hagrees.size_eq
  refine ⟨⟨hleft.idle, hright.idle, hsize, ?_⟩, fun habout => (hsame habout).1⟩
  by_cases habout : about = wanted
  · exact (hsame habout).2
  · have hnot : about ∉ ({wanted} : Attributes) := by simpa using habout
    rw [hleft.keep_eq _ hnot, hright.keep_eq _ hnot, hagrees.keep_eq]

theorem both {answers : Type} {first second : Except Fault (answers × Session)}
    (hfirst : ∃ answer after, first = .ok (answer, after) ∧ LeavesOthers about left after)
    (hsecond : ∃ answer after, second = .ok (answer, after) ∧ LeavesOthers about right after)
    (halike : about = wanted → Alike (Prod.map id (keep {wanted})) first second) :
    BothAnswer (fun left right => AgreeOn wanted size left.2 right.2 ∧
      (about = wanted → left.1 = right.1)) first second := by
  obtain ⟨answer, afterLeft, rfl, hleft⟩ := hfirst
  obtain ⟨found, afterRight, rfl, hright⟩ := hsecond
  apply BothAnswer.ok
  apply hagrees.step hleft hright
  intro habout
  obtain ⟨hanswer, hkeep⟩ := Prod.mk.inj (Except.ok.inj (halike habout))
  exact ⟨hanswer, (keep_eq_iff.mp hkeep).1⟩

section Agreement

variable (hagree : config.inferable.contains wanted = rival.inferable.contains wanted)
include hagree

theorem infer (about : Attribute) (hfunction : function.number < size) :
    BothAnswer (fun left right => AgreeOn wanted size left.2 right.2 ∧
        (about = wanted → left.1 = right.1))
      (left.infer config function about) (right.infer rival function about) := by
  apply hagrees.both
  · rw [← hagrees.left_size_eq] at hfunction
    obtain ⟨_, holds, after, -, -, hinfer, hanswered⟩ :=
      infer_answered config about hagrees.left_idle hfunction
    exact ⟨holds, after, hinfer, hanswered.leavesOthers⟩
  · rw [← hagrees.size_eq] at hfunction
    obtain ⟨_, holds, after, -, -, hinfer, hanswered⟩ :=
      infer_answered rival about hagrees.right_idle hfunction
    exact ⟨holds, after, hinfer, hanswered.leavesOthers⟩
  · rintro rfl
    exact infer_alike (by simp) hagree hagrees.session_keep_eq function

theorem downgrade (about : Attribute) (hfunction : function.number < size)
    (cause : Option Effect) :
    BothAnswer (fun first second => AgreeOn wanted size { left with arena := first.2 }
          { right with arena := second.2 } ∧ (about = wanted → first.1 = second.1))
      (left.arena.downgrade config function about cause)
      (right.arena.downgrade rival function about cause) := by
  have hbound : function.number < left.arena.size := by rwa [hagrees.left_size_eq]
  obtain ⟨_, first, afterLeft, -, -, hfirst, hleft⟩ :=
    exists_downgraded config about hagrees.left_idle.closed hbound cause
  rw [hagrees.left_size_eq, ← hagrees.size_eq] at hbound
  obtain ⟨_, second, afterRight, -, -, hsecond, hright⟩ :=
    exists_downgraded rival about hagrees.right_idle.closed hbound cause
  rw [hfirst, hsecond]
  apply BothAnswer.ok
  apply hagrees.step (hagrees.left_idle.leavesOthers_of_downgraded hleft)
    (hagrees.right_idle.leavesOthers_of_downgraded hright)
  rintro rfl
  have halike := downgrade_alike hagrees.keep_eq (by simp) hagree function cause
  rw [hfirst, hsecond] at halike
  exact Prod.mk.inj (Except.ok.inj halike)

/-- The bodies may differ unless they are checked against the attribute in question. -/
theorem violations (function : DeclId) {about : Attribute} {leftEffects rightEffects : List Effect}
    (hleftEffects : ∀ effect ∈ leftEffects, ∀ handle ∈ effect.handles, handle.number < size)
    (hrightEffects : ∀ effect ∈ rightEffects, ∀ handle ∈ effect.handles, handle.number < size)
    (hsame : about = wanted → leftEffects = rightEffects) :
    BothAnswer (fun left right => AgreeOn wanted size left.2 right.2 ∧
        (about = wanted → left.1 = right.1))
      (violations config function about left leftEffects)
      (violations rival function about right rightEffects) := by
  apply hagrees.both
  · rw [← hagrees.left_size_eq] at hleftEffects
    obtain ⟨after, hrun, hafter, hlearns⟩ :=
      exists_violations config function about hagrees.left_idle hleftEffects
    exact ⟨_, after, hrun, hafter, fun _ => hlearns.keep_eq⟩
  · rw [← hagrees.size_eq] at hrightEffects
    obtain ⟨after, hrun, hafter, hlearns⟩ :=
      exists_violations rival function about hagrees.right_idle hrightEffects
    exact ⟨_, after, hrun, hafter, fun _ => hlearns.keep_eq⟩
  · rintro rfl
    rw [hsame rfl]
    exact violations_alike hagrees.session_keep_eq (by simp) hagree function rightEffects

theorem checkNewEffect (about : Attribute) (hfunction : function.number < size)
    (heffect : ∀ handle ∈ effect.handles, handle.number < size) :
    BothAnswer (fun left right => AgreeOn wanted size left.2 right.2 ∧
        (about = wanted → left.1 = right.1))
      (left.checkNewEffect config function effect about)
      (right.checkNewEffect rival function effect about) := by
  apply hagrees.both
  · rw [← hagrees.left_size_eq] at hfunction heffect
    obtain ⟨target, htarget, -⟩ := hagrees.left_idle.closed.aliasedFunction hfunction
    obtain ⟨errors, after, hrun, hchecked⟩ :=
      exists_checked config about hagrees.left_idle hfunction htarget heffect
    exact ⟨errors, after, hrun, hchecked.leavesOthers hagrees.left_idle⟩
  · rw [← hagrees.size_eq] at hfunction heffect
    obtain ⟨target, htarget, -⟩ := hagrees.right_idle.closed.aliasedFunction hfunction
    obtain ⟨errors, after, hrun, hchecked⟩ :=
      exists_checked rival about hagrees.right_idle hfunction htarget heffect
    exact ⟨errors, after, hrun, hchecked.leavesOthers hagrees.right_idle⟩
  · rintro rfl
    exact checkNewEffect_alike hagrees.session_keep_eq (by simp) hagree function effect

/-! ### Every attribute of a list -/

theorem inferEach (hfunction : function.number < size) (attributes : List Attribute) :
    BothAnswer (fun left right => AgreeOn wanted size left.2 right.2)
      (inferEach config function left attributes) (inferEach rival function right attributes) := by
  induction attributes generalizing left right with
  | nil => exact .ok hagrees
  | cons about attributes ih =>
    apply (hagrees.infer hagree about hfunction).bind
    rintro ⟨holds, left⟩ ⟨found, right⟩ ⟨hmiddle, -⟩
    apply (ih hmiddle).bind
    rintro ⟨others, left⟩ ⟨rest, right⟩ hafter
    exact .ok hafter

/-- The attributes that are written may differ but for the one in question. -/
theorem violationsOfEach (function : DeclId) {effects : List Effect}
    (heffects : ∀ effect ∈ effects, ∀ handle ∈ effect.handles, handle.number < size)
    {chosen picked : Attribute → Bool} (hsame : chosen wanted = picked wanted)
    (attributes : List Attribute) :
    BothAnswer (fun left right => AgreeOn wanted size left.2 right.2)
      (violationsOfEach config function effects left (attributes.filter chosen))
      (violationsOfEach rival function effects right (attributes.filter picked)) := by
  induction attributes generalizing left right with
  | nil => exact .ok hagrees
  | cons about attributes ih =>
    rw [violationsOfEach_filter_cons, violationsOfEach_filter_cons]
    have hpart : ∀ included : Bool, ∀ effect ∈ if included then effects else [],
        ∀ handle ∈ effect.handles, handle.number < size := by
      intro included
      cases included with
      | true => exact heffects
      | false => exact List.forall_mem_nil _
    apply (hagrees.violations hagree function (hpart (chosen about)) (hpart (picked about))
      (by rintro rfl; rw [hsame])).bind
    rintro ⟨errors, left⟩ ⟨found, right⟩ ⟨hmiddle, -⟩
    apply (ih hmiddle).bind
    rintro ⟨later, left⟩ ⟨rest, right⟩ hafter
    exact .ok hafter

theorem checkNewEffectAgainst (hfunction : function.number < size)
    (heffect : ∀ handle ∈ effect.handles, handle.number < size) (attributes : List Attribute) :
    BothAnswer (fun left right => AgreeOn wanted size left.2 right.2)
      (checkNewEffectAgainst config function effect left attributes)
      (checkNewEffectAgainst rival function effect right attributes) := by
  induction attributes generalizing left right with
  | nil => exact .ok hagrees
  | cons about attributes ih =>
    apply (hagrees.checkNewEffect hagree about hfunction heffect).bind
    rintro ⟨errors, left⟩ ⟨found, right⟩ ⟨hmiddle, -⟩
    apply (ih hmiddle).bind
    rintro ⟨later, left⟩ ⟨rest, right⟩ hafter
    exact .ok hafter

/-! ### Operations -/

theorem verify (hfunction : function.number < size) :
    BothAnswer (fun left right => AgreeOn wanted size left.2 right.2)
      (left.verify config function) (right.verify rival function) := by
  rw [← hagrees.left_size_eq] at hfunction
  obtain ⟨declaration, hget⟩ := exists_get hfunction
  obtain ⟨other, hother, hsame⟩ := exists_get_of_keep_eq hagrees.keep_eq hget
  rw [Session.verify, Session.verify, hget, hother, ok_bind, ok_bind]
  cases hfunc : declaration.asFunc? with
  | none =>
    rw [Declaration.asFunc?_eq_none_of_keep_eq hsame hfunc]
    exact .ok hagrees
  | some state =>
    obtain ⟨found, hfound, -⟩ := Declaration.exists_asFunc?_of_keep_eq hsame hfunc
    have heffects : state.effects = found.effects := by
      simpa [hfunc, hfound] using Declaration.effects_congr hsame
    have hbound : ∀ effect ∈ found.effects, ∀ handle ∈ effect.handles, handle.number < size := by
      intro effect heffect handle hhandle
      rw [← hagrees.size_eq]
      exact hagrees.right_idle.closed.lt_of_mem_handles hother
        (mem_handles_of_effect hfound heffect hhandle)
    have hwritten : declaration.isWritten state wanted = other.isWritten found wanted :=
      Declaration.isWritten_congr hsame (by simp) hfunc hfound
    simp only [hfound, heffects]
    exact hagrees.violationsOfEach hagree function hbound hwritten Flag.all

theorem recordEffect (hfunction : function.number < size)
    (heffect : ∀ handle ∈ effect.handles, handle.number < size) :
    BothAnswer (fun left right => AgreeOn wanted size left.2 right.2)
      (left.recordEffect config function effect) (right.recordEffect rival function effect) := by
  have hbound : function.number < right.arena.size := by rwa [hagrees.size_eq]
  obtain ⟨target, htarget, hlt⟩ := hagrees.right_idle.closed.aliasedFunction hbound
  obtain ⟨other, hother⟩ := exists_get hlt
  obtain ⟨declaration, hget, hsame⟩ := exists_get_of_keep_eq hagrees.keep_eq.symm hother
  rw [Session.recordEffect, Session.recordEffect, aliasedFunction_of_keep_eq hagrees.keep_eq,
    htarget, ok_bind, ok_bind, hget, hother, ok_bind, ok_bind, Declaration.isFunction_congr hsame]
  split
  · exact .ok hagrees
  · rw [hagrees.size_eq] at hlt
    obtain ⟨added, hadd, hadded⟩ := exists_addEffect hagrees.left_idle.closed
      (by rwa [hagrees.left_size_eq] : target.number < left.arena.size)
      (by rwa [hagrees.left_size_eq])
    obtain ⟨grown, hgrow, hgrown⟩ := exists_addEffect hagrees.right_idle.closed
      (by rwa [hagrees.size_eq] : target.number < right.arena.size) (by rwa [hagrees.size_eq])
    have halike := modifyFunc_alike hagrees.keep_eq target
      (fun state => rfl : ∀ state : Func, (state.addEffect effect).keep {wanted} = _)
    rw [hadd, hgrow] at halike
    rw [hadd, hgrow, ok_bind, ok_bind]
    have hagreed : AgreeOn wanted size { left with arena := added } { right with arena := grown } :=
      ⟨⟨hagrees.left_idle.stack_eq, hadded⟩, ⟨hagrees.right_idle.stack_eq, hgrown⟩,
        (size_of_modifyFunc hgrow).trans hagrees.size_eq, Except.ok.inj halike⟩
    exact hagreed.checkNewEffectAgainst hagree hlt heffect Flag.all

theorem checkClosure (hfunction : function.number < size) :
    BothAnswer (fun left right => AgreeOn wanted size left.2 right.2)
      (left.checkClosure config function) (right.checkClosure rival function) := by
  have hleft : function.number < left.arena.size := by rwa [hagrees.left_size_eq]
  have hright : function.number < right.arena.size := by rwa [hagrees.size_eq]
  obtain ⟨needed, marked, hneeded, hmarks, -⟩ :=
    exists_needsClosure hagrees.left_idle.closed hleft
  obtain ⟨found, other, hfound, hothers, -⟩ := exists_needsClosure hagrees.right_idle.closed hright
  have halike := needsClosure_alike hagrees.keep_eq function
  rw [hneeded, hfound] at halike
  obtain ⟨hanswer, hkeep⟩ := Prod.mk.inj (Except.ok.inj halike)
  obtain rfl : needed = found := hanswer
  have hmarked : AgreeOn wanted size { left with arena := marked } { right with arena := other } :=
    ⟨⟨hagrees.left_idle.stack_eq, hmarks.closed hagrees.left_idle.closed⟩,
      ⟨hagrees.right_idle.stack_eq, hothers.closed hagrees.right_idle.closed⟩,
      hothers.size_eq.trans hagrees.size_eq, hkeep⟩
  rw [Session.checkClosure, Session.checkClosure, hneeded, hfound, ok_bind, ok_bind]
  cases needed with
  | false => exact .ok hmarked
  | true =>
    obtain ⟨declaration, hget⟩ : ∃ declaration, marked.get function = .ok declaration := by
      apply exists_get
      rwa [hmarks.size_eq]
    obtain ⟨copied, hcopied, hsame⟩ := exists_get_of_keep_eq hkeep hget
    simp only [hget, hcopied, ok_bind, Bool.not_true, Bool.false_eq_true, if_false]
    rw [Declaration.span_congr hsame]
    apply (hmarked.recordEffect hagree hfunction (by simp [Effect.handles])).bind
    rintro ⟨errors, left⟩ ⟨reports, right⟩ hafter
    cases errors <;> cases reports <;> exact .ok hafter

/-- Any operation keeps up the agreement, whatever it is about. -/
theorem perform {operation : Operation}
    (hhandles : ∀ handle ∈ operation.handles, handle.number < size) :
    BothAnswer (AgreeOn wanted size) (left.perform config operation)
      (right.perform rival operation) := by
  cases operation with
  | infer function about =>
    apply (hagrees.infer hagree about (hhandles function (by simp [Operation.handles]))).bind
    intro left right hafter
    exact .ok hafter.1
  | inferAll function =>
    apply (hagrees.inferEach hagree (hhandles function (by simp [Operation.handles]))
      Flag.all).bind
    intro left right hafter
    exact .ok hafter
  | verify function =>
    apply (hagrees.verify hagree (hhandles function (by simp [Operation.handles]))).bind
    intro left right hafter
    exact .ok hafter
  | downgrade function about cause =>
    apply (hagrees.downgrade hagree about (hhandles function (by simp [Operation.handles]))
      cause).bind
    intro left right hafter
    exact .ok hafter.1
  | recordEffect function effect =>
    have heffect : ∀ handle ∈ effect.handles, handle.number < size :=
      fun handle hhandle => hhandles handle (by simp [Operation.handles, hhandle])
    apply (hagrees.recordEffect hagree (hhandles function (by simp [Operation.handles]))
      heffect).bind
    intro left right hafter
    exact .ok hafter
  | checkClosure function =>
    apply (hagrees.checkClosure hagree (hhandles function (by simp [Operation.handles]))).bind
    intro left right hafter
    exact .ok hafter

theorem run {operations : List Operation}
    (hhandles : ∀ operation ∈ operations, ∀ handle ∈ operation.handles, handle.number < size) :
    BothAnswer (AgreeOn wanted size) (left.run config operations) (right.run rival operations) := by
  induction operations generalizing left right with
  | nil => exact .ok hagrees
  | cons operation operations ih =>
    rw [List.forall_mem_cons] at hhandles
    rw [run_cons, run_cons]
    apply (hagrees.perform hagree hhandles.1).bind
    intro left right hmiddle
    exact ih hmiddle hhandles.2

end Agreement

end AgreeOn

/-- Two sessions answer every question about an attribute alike, each under its configuration, and
report the same when the attribute is taken back. -/
structure SameAnswers (wanted : Attribute) (size : Nat) (config rival : Config)
    (left right : Session) : Prop where
  infer : ∀ function : DeclId, function.number < size → ∃ holds afterLeft afterRight,
    left.infer config function wanted = .ok (holds, afterLeft) ∧
    right.infer rival function wanted = .ok (holds, afterRight)
  downgrade : ∀ (function : DeclId) (cause : Option Effect), function.number < size →
    ∃ errors afterLeft afterRight,
      left.arena.downgrade config function wanted cause = .ok (errors, afterLeft) ∧
      right.arena.downgrade rival function wanted cause = .ok (errors, afterRight)

theorem AgreeOn.sameAnswers {size : Nat} (hagrees : AgreeOn wanted size left right)
    (hagree : config.inferable.contains wanted = rival.inferable.contains wanted) :
    SameAnswers wanted size config rival left right where
  infer function hfunction := by
    obtain ⟨⟨holds, afterLeft⟩, ⟨found, afterRight⟩, hleft, hright, -, hsame⟩ :=
      hagrees.infer hagree wanted hfunction
    obtain rfl : holds = found := hsame rfl
    exact ⟨holds, afterLeft, afterRight, hleft, hright⟩
  downgrade function cause hfunction := by
    obtain ⟨⟨errors, afterLeft⟩, ⟨found, afterRight⟩, hleft, hright, -, hsame⟩ :=
      hagrees.downgrade hagree wanted hfunction cause
    obtain rfl : errors = found := hsame rfl
    exact ⟨errors, afterLeft, afterRight, hleft, hright⟩

/-- Inferring and taking back one attribute is not seen by another one.  It changes nothing of what
is recorded about the other one, and after any further operations, on whatever attributes, all
answers about the other one are what they would have been without.  Nor do they depend on more of
the configuration than whether the attribute may be inferred. -/
theorem run_independent {arena : Arena} (hclosed : arena.Closed) (hother : other ≠ wanted)
    (hagree : config.inferable.contains wanted = rival.inferable.contains wanted)
    {earlier later : List Operation}
    (habout : ∀ operation ∈ earlier, operation.isAbout other = true)
    (hearlier : ∀ operation ∈ earlier, ∀ handle ∈ operation.handles, handle.number < arena.size)
    (hlater : ∀ operation ∈ later, ∀ handle ∈ operation.handles, handle.number < arena.size) :
    ∃ middle last alone elsewhere,
      run config { arena } earlier = .ok middle ∧
      (∀ id declaration, arena.get id = .ok declaration →
        ∃ next, middle.arena.get id = .ok next ∧ declaration.RecordsAlike wanted next) ∧
      middle.run config later = .ok last ∧
      run config { arena } later = .ok alone ∧
      run rival { arena } later = .ok elsewhere ∧
      SameAnswers wanted arena.size config config last alone ∧
      SameAnswers wanted arena.size config rival alone elsewhere := by
  have hidle : Session.Idle { arena } := ⟨rfl, hclosed⟩
  obtain ⟨middle, hrun, hleaves⟩ := exists_run_about config hidle habout hearlier
  have hkeep : middle.arena.keep {wanted} = arena.keep {wanted} :=
    hleaves.keep_eq {wanted} (by simpa using hother)
  have hstart : AgreeOn wanted arena.size middle { arena } := ⟨hleaves.idle, hidle, rfl, hkeep⟩
  have hsame : AgreeOn wanted arena.size { arena } { arena } := ⟨hidle, hidle, rfl, rfl⟩
  obtain ⟨last, alone, hlast, halone, hagreed⟩ := hstart.run rfl hlater
  obtain ⟨found, elsewhere, hfound, helsewhere, hagreedToo⟩ := hsame.run hagree hlater
  obtain rfl : alone = found := Except.ok.inj (halone.symm.trans hfound)
  refine ⟨middle, last, alone, elsewhere, hrun, fun id declaration hget => ?_, hlast, halone,
    helsewhere, hagreed.sameAnswers rfl, hagreedToo.sameAnswers hagree⟩
  obtain ⟨next, hnext, hrecord⟩ := exists_get_of_keep_eq hkeep.symm hget
  exact ⟨next, hnext, Declaration.recordsAlike_of_keep_eq hrecord (by simp)⟩

theorem run_independent_throwingCycle :
    throwingCycle.Closed ∧ Attribute.purity ≠ .nothrow ∧
    ∃ middle last alone elsewhere,
      run {} { arena := throwingCycle } [.infer ⟨0⟩ .purity, .downgrade ⟨1⟩ .purity none] =
        .ok middle ∧
      (∀ id declaration, throwingCycle.get id = .ok declaration →
        ∃ next, middle.arena.get id = .ok next ∧ declaration.RecordsAlike .nothrow next) ∧
      middle.run {} [.inferAll ⟨1⟩] = .ok last ∧
      run {} { arena := throwingCycle } [.inferAll ⟨1⟩] = .ok alone ∧
      run { inferable := {.nothrow} } { arena := throwingCycle } [.inferAll ⟨1⟩] = .ok elsewhere ∧
      SameAnswers .nothrow throwingCycle.size {} {} last alone ∧
      SameAnswers .nothrow throwingCycle.size {} { inferable := {.nothrow} } alone elsewhere := by
  have hclosed : throwingCycle.Closed := by decide
  have hother : Attribute.purity ≠ .nothrow := by decide
  exact ⟨hclosed, hother, run_independent hclosed hother (by decide) (by decide) (by decide)
    (by decide)⟩

end Session

end Declarations
