import Declarations.Inference.Verification
import Declarations.Proofs.Inference.Query
import Declarations.Proofs.Inference.Retreat

/-!
# Effects that are found late

An effect that is found after its function was looked into is added to the body, and every attribute
that the function has by then is checked against it.  The check of one attribute asks whether the
effect is fine, and takes the attribute back if it is not.
-/

namespace Declarations

theorem Func.effects_addEffect (state : Func) (effect : Effect) :
    (state.addEffect effect).effects = state.effects ++ [effect] := by
  unfold Func.effects Func.addEffect
  cases state.body <;> rfl

namespace Declaration

variable {declaration : Declaration} {state : Func} {effect : Effect}

/-- The body has no part in what is recorded. -/
theorem keep_mapFunc_addEffect {kept : Attributes} :
    (declaration.mapFunc (·.addEffect effect)).keep kept =
      (declaration.keep kept).mapFunc (·.addEffect effect) :=
  keep_mapFunc fun _ => rfl

/-- One more effect in a body that is there settles nothing. -/
theorem status_mapFunc_addEffect {config : Config} {wanted : Attribute}
    (hbody : ∀ state, declaration.asFunc? = some state → state.body.isSome = true) :
    (declaration.mapFunc (·.addEffect effect)).status config wanted =
      declaration.status config wanted :=
  status_mapFunc (fun _ => rfl) (fun _ => rfl) (fun _ => rfl) fun state hfunc =>
    (hbody state hfunc).symm

/-- The changed function names what it named before, and what the effect names. -/
theorem mem_handles_mapFunc_addEffect {handle : DeclId}
    (hhandle : handle ∈ (declaration.mapFunc (·.addEffect effect)).handles) :
    handle ∈ declaration.handles ∨ handle ∈ effect.handles := by
  cases hfunc : declaration.asFunc? with
  | none =>
    rw [mapFunc_of_asFunc?_eq_none hfunc] at hhandle
    exact .inl hhandle
  | some state =>
    rw [mapFunc_of_asFunc? hfunc] at hhandle
    simp only [handles, entity_of_asFunc? hfunc, Entity.handles, Func.handles,
      Func.effects_addEffect, List.flatMap_append, List.flatMap_singleton,
      List.mem_append] at hhandle ⊢
    simp only [Func.addEffect] at hhandle
    tauto

end Declaration

namespace Arena

variable {before after : Arena} {id target : DeclId} {effect : Effect} {config : Config}
variable {wanted : Attribute}

/-- An effect that names declarations of a closed arena can be added to a body. -/
theorem exists_addEffect (hclosed : before.Closed) (htarget : target.number < before.size)
    (heffect : ∀ handle ∈ effect.handles, handle.number < before.size) :
    ∃ after, before.modifyFunc target (·.addEffect effect) = .ok after ∧ after.Closed := by
  obtain ⟨declaration, hget⟩ := exists_get htarget
  obtain ⟨after, hmodify⟩ := exists_modifyFunc (·.addEffect effect) htarget
  refine ⟨after, hmodify, closed_of_modify hclosed hget ?_ ?_ hmodify⟩
  · intro handle hhandle
    obtain hold | hnew := Declaration.mem_handles_mapFunc_addEffect hhandle
    · exact hclosed.lt_of_mem_handles hget hold
    · exact heffect handle hnew
  · exact Declaration.aggregateHandles_mapFunc

theorem aliasedFunction_of_addEffect
    (hadd : before.modifyFunc target (·.addEffect effect) = .ok after) (id : DeclId) :
    after.aliasedFunction id = before.aliasedFunction id :=
  aliasedFunction_of_modifyFunc (fun state : Func => (rfl : (state.addEffect effect).role = _)) hadd
    id

/-- The same effects are fine after an effect was added. -/
theorem allows_of_addEffect (hadd : before.modifyFunc target (·.addEffect effect) = .ok after)
    {relied : Set DeclId} {other : Effect} :
    after.Allows wanted relied other ↔ before.Allows wanted relied other := by
  simp only [Allows, aliasedFunction_of_addEffect hadd, breaksDirectly_of_modifyFunc hadd]

def HasBody (arena : Arena) (id : DeclId) : Prop :=
  ∀ declaration state, arena.get id = .ok declaration → declaration.asFunc? = some state →
    state.body.isSome = true

/-- Bodies are no part of the record. -/
theorem hasBody_of_keep_eq {left right : Arena} {kept : Attributes}
    (hkeep : left.keep kept = right.keep kept) (hbody : right.HasBody id) : left.HasBody id := by
  intro declaration state hget hfunc
  obtain ⟨other, hother, hsame⟩ := exists_get_of_keep_eq hkeep hget
  have hstate : declaration.asFunc?.map (Func.keep kept) = other.asFunc?.map (Func.keep kept) := by
    rw [← Declaration.asFunc?_keep, hsame, Declaration.asFunc?_keep]
  rw [hfunc, Option.map_some, eq_comm, Option.map_eq_some_iff] at hstate
  obtain ⟨otherState, hotherFunc, hkept⟩ := hstate
  have hbodies : (otherState.keep kept).body = (state.keep kept).body := by rw [hkept]
  change otherState.body = state.body at hbodies
  rw [← hbodies]
  exact hbody other otherState hother hotherFunc

theorem hasBody_of_addEffect (hadd : before.modifyFunc target (·.addEffect effect) = .ok after)
    (hbody : before.HasBody id) : after.HasBody id := by
  intro declaration state hget hfunc
  obtain ⟨earlier, hearlier, rfl | rfl⟩ := exists_get_of_modifyFunc hadd hget
  · exact hbody declaration state hearlier hfunc
  · rw [Declaration.asFunc?_mapFunc, Option.map_eq_some_iff] at hfunc
    obtain ⟨earlierState, -, rfl⟩ := hfunc
    rfl

theorem keep_of_addEffect (hadd : before.modifyFunc target (·.addEffect effect) = .ok after)
    (kept : Attributes) :
    (before.keep kept).modifyFunc target (·.addEffect effect) = .ok (after.keep kept) := by
  have hbound : target.number < before.size :=
    modify_isOk_iff.mp (by rw [← modifyFunc, hadd]; rfl)
  simp only [modifyFunc, modify, hbound, if_true, Except.ok.injEq] at hadd
  subst after
  have hkept : target.number < (before.keep kept).size := by rwa [size_keep]
  simp only [modifyFunc, modify, hkept, if_true, Except.ok.injEq]
  simp only [keep, mk.injEq, and_true]
  apply Array.ext_getElem?
  intro place
  simp only [Array.getElem?_map, Array.getElem?_modify]
  by_cases hplace : target.number = place
  · subst place
    cases before.declarations[target.number]? <;>
      simp [Declaration.keep_mapFunc_addEffect]
  · simp [hplace]

/-- The status is what it was, since the function had a body before. -/
theorem withStatus_of_addEffect (hadd : before.modifyFunc target (·.addEffect effect) = .ok after)
    (hbody : before.HasBody target) (status : Status) :
    id ∈ after.withStatus config wanted status ↔ id ∈ before.withStatus config wanted status := by
  simp only [withStatus, Set.mem_ofPred_eq, get_of_modifyFunc hadd]
  by_cases hid : id = target
  · subst hid
    rw [if_pos rfl]
    cases hget : before.get id with
    | error fault => simp
    | ok declaration =>
      simp [Declaration.status_mapFunc_addEffect fun state => hbody declaration state hget]
  · rw [if_neg hid]

/-- The new effect is the only one that comes to a body. -/
theorem mem_effectsOf_of_addEffect
    (hadd : before.modifyFunc target (·.addEffect effect) = .ok after) {other : Effect}
    (hother : other ∈ after.effectsOf id) :
    other ∈ before.effectsOf id ∨ id = target ∧ other = effect := by
  simp only [effectsOf, get_of_modifyFunc hadd] at hother ⊢
  by_cases hid : id = target
  · rw [if_pos hid] at hother
    cases hget : before.get id with
    | error fault => simp [hget] at hother
    | ok declaration =>
      cases hfunc : declaration.asFunc? with
      | none => simp [hget, hfunc] at hother
      | some state =>
        simp only [hget, hfunc, ok_map, Declaration.asFunc?_mapFunc, Option.map_some,
          Option.getD_some, Func.effects_addEffect, List.mem_append, List.mem_singleton] at hother
        simpa [hfunc, hid] using hother
  · rw [if_neg hid] at hother
    exact .inl hother

theorem mem_effectsOf_addEffect (hadd : before.modifyFunc target (·.addEffect effect) = .ok after)
    {declaration : Declaration} (hget : before.get target = .ok declaration)
    (hfunction : declaration.isFunction = true) : effect ∈ after.effectsOf target := by
  obtain ⟨state, hfunc⟩ := Option.isSome_iff_exists.mp hfunction
  simp [effectsOf, get_of_modifyFunc hadd, hget, hfunc, Func.effects_addEffect]

/-- Effects only accumulate. -/
theorem effectsOf_subset_of_addEffect
    (hadd : before.modifyFunc target (·.addEffect effect) = .ok after) :
    before.effectsOf id ⊆ after.effectsOf id := by
  intro other hother
  simp only [effectsOf, get_of_modifyFunc hadd] at hother ⊢
  by_cases hid : id = target
  · rw [if_pos hid]
    cases hget : before.get id with
    | error fault => simp [hget] at hother
    | ok declaration =>
      cases hfunc : declaration.asFunc? with
      | none => simp [hget, hfunc] at hother
      | some state =>
        simp only [hget, hfunc, Option.map_some, Option.getD_some] at hother
        simp [hfunc, Func.effects_addEffect, hother]
  · rwa [if_neg hid]

/-- No function gets an attribute through a further effect. -/
theorem entitled_of_addEffect (hadd : before.modifyFunc target (·.addEffect effect) = .ok after)
    (hbody : before.HasBody target) :
    after.entitled config wanted ⊆ before.entitled config wanted := by
  apply subset_entitled
  intro id hid
  obtain hholds | ⟨hundecided, hsupports⟩ := entitled_cases hid
  · exact .inl ((withStatus_of_addEffect hadd hbody .holds).mp hholds)
  · refine .inr ⟨(withStatus_of_addEffect hadd hbody .undecided).mp hundecided, ?_⟩
    exact fun other hother => (allows_of_addEffect hadd).mp
      (hsupports other (effectsOf_subset_of_addEffect hadd hother))

end Arena

namespace Session

open Arena

variable {session : Session} {config : Config} {wanted : Attribute} {function target : DeclId}
variable {effect : Effect}

/-- What became of the check of one attribute against a new effect of `function`, which is another
name for `target`. -/
inductive Checked (config : Config) (function target : DeclId) (effect : Effect)
    (wanted : Attribute) (before : Session) : Session → Prop where
  /-- The function does not have the attribute. -/
  | unneeded (lacks : function ∉ before.arena.withStatus config wanted .holds) :
      Checked config function target effect wanted before before
  /-- The effect is fine. -/
  | fine {after : Session} (holds : function ∈ before.arena.withStatus config wanted .holds)
      (answered : Answered config wanted before (before.arena.Allows wanted · effect) true after) :
      Checked config function target effect wanted before after
  /-- The effect breaks the attribute. -/
  | broken {middle : Session} {errors : List DeclError} {arena : Arena}
      (holds : function ∈ before.arena.withStatus config wanted .holds)
      (answered : Answered config wanted before (before.arena.Allows wanted · effect) false middle)
      (downgraded : Downgraded config wanted target (some effect) middle.arena errors arena) :
      Checked config function target effect wanted before { middle with arena }

inductive CheckedEach (config : Config) (function target : DeclId) (effect : Effect) :
    List Attribute → Session → Session → Prop where
  | nil {session : Session} : CheckedEach config function target effect [] session session
  | cons {wanted : Attribute} {attributes : List Attribute} {before middle after : Session}
      (checked : Checked config function target effect wanted before middle)
      (rest : CheckedEach config function target effect attributes middle after) :
      CheckedEach config function target effect (wanted :: attributes) before after

theorem exists_checked (config : Config) (wanted : Attribute) (hidle : session.Idle)
    (hfunction : function.number < session.arena.size)
    (halias : session.arena.aliasedFunction function = .ok target)
    (heffect : ∀ handle ∈ effect.handles, handle.number < session.arena.size) :
    ∃ errors after, session.checkNewEffect config function effect wanted = .ok (errors, after) ∧
      Checked config function target effect wanted session after := by
  obtain ⟨declaration, hget⟩ := exists_get hfunction
  have hstatus := mem_withStatus_iff_of_get hget config wanted .holds
  by_cases hholds : declaration.status config wanted = .holds
  · obtain ⟨broken, middle, hbreaks, hanswered⟩ :=
      breaks_answered config wanted hidle heffect
    cases broken with
    | false =>
      exact ⟨[], middle, by simp [checkNewEffect, hget, hholds, hbreaks],
        .fine (hstatus.mpr hholds) hanswered⟩
    | true =>
      have hbound : function.number < middle.arena.size := by rwa [hanswered.learns.size_eq]
      obtain ⟨found, errors, arena, hfound, -, hdowngrade, hdowngraded⟩ :=
        exists_downgraded config wanted hanswered.idle.closed hbound
          (some effect)
      rw [hanswered.learns.aliasedFunction_eq, halias, Except.ok.injEq] at hfound
      subst hfound
      exact ⟨errors, { middle with arena },
        by simp [checkNewEffect, hget, hholds, hbreaks, hdowngrade],
        .broken (hstatus.mpr hholds) hanswered hdowngraded⟩
  · exact ⟨[], session, by simp [checkNewEffect, hget, hholds],
      .unneeded (fun hmem => hholds (hstatus.mp hmem))⟩

/-- The check of an attribute leaves the record of the others alone. -/
theorem Checked.keep_eq {after : Session}
    (hchecked : Checked config function target effect wanted session after) {kept : Attributes}
    (hwanted : wanted ∉ kept) : after.arena.keep kept = session.arena.keep kept := by
  cases hchecked with
  | unneeded => rfl
  | fine _ answered => exact answered.learns.keep_eq hwanted
  | broken _ answered downgraded =>
    exact (downgraded.keep_eq hwanted).trans (answered.learns.keep_eq hwanted)

theorem Checked.outline_eq {after : Session}
    (hchecked : Checked config function target effect wanted session after) :
    after.arena.keep ∅ = session.arena.keep ∅ :=
  hchecked.keep_eq (FlagSet.not_mem_empty wanted)

theorem Checked.idle {after : Session}
    (hchecked : Checked config function target effect wanted session after)
    (hidle : session.Idle) : after.Idle := by
  have hclosed := closed_of_keep_eq hchecked.outline_eq hidle.closed
  cases hchecked with
  | unneeded => exact hidle
  | fine _ answered => exact answered.idle
  | broken _ answered _ => exact ⟨answered.idle.stack_eq, hclosed⟩

theorem exists_checkedEach (config : Config) (attributes : List Attribute) (hidle : session.Idle)
    (hfunction : function.number < session.arena.size)
    (halias : session.arena.aliasedFunction function = .ok target)
    (heffect : ∀ handle ∈ effect.handles, handle.number < session.arena.size) :
    ∃ errors after,
      checkNewEffectAgainst config function effect session attributes = .ok (errors, after) ∧
        CheckedEach config function target effect attributes session after ∧ after.Idle := by
  induction attributes generalizing session with
  | nil => exact ⟨[], session, rfl, .nil, hidle⟩
  | cons wanted attributes ih =>
    obtain ⟨errors, middle, hcheck, hchecked⟩ :=
      exists_checked config wanted hidle hfunction halias heffect
    have hsize := size_of_keep_eq hchecked.outline_eq
    have hnamed := (aliasedFunction_of_keep_eq hchecked.outline_eq function).trans halias
    obtain ⟨later, after, hrest, heach, hafter⟩ :=
      ih (hchecked.idle hidle) (by rwa [hsize]) hnamed (by rwa [hsize])
    exact ⟨errors ++ later, after, by simp [checkNewEffectAgainst, hcheck, hrest],
      .cons hchecked heach, hafter⟩

/-! ## Recording an effect -/

/-- What became of an effect that was found late in the function `target`, which for downgrades is
another name for `final`. -/
inductive Recorded (config : Config) (target final : DeclId) (effect : Effect) (before : Session) :
    Session → Prop where
  /-- Only functions have bodies. -/
  | ignored {declaration : Declaration} (get_eq : before.arena.get target = .ok declaration)
      (isFunction_eq : declaration.isFunction = false) :
      Recorded config target final effect before before
  | checked {declaration : Declaration} {arena : Arena} {after : Session}
      (get_eq : before.arena.get target = .ok declaration)
      (isFunction_eq : declaration.isFunction = true)
      (added : before.arena.modifyFunc target (·.addEffect effect) = .ok arena)
      (checked : CheckedEach config target final effect Flag.all { before with arena } after) :
      Recorded config target final effect before after

/-- An effect can always be recorded. -/
theorem exists_recorded (config : Config) (effect : Effect) (hidle : session.Idle)
    (hfunction : function.number < session.arena.size)
    (heffect : ∀ handle ∈ effect.handles, handle.number < session.arena.size) :
    ∃ target final errors after, session.arena.aliasedFunction function = .ok target ∧
      session.arena.aliasedFunction target = .ok final ∧
      session.recordEffect config function effect = .ok (errors, after) ∧
      Recorded config target final effect session after ∧ after.Idle := by
  obtain ⟨target, htarget, hbound⟩ := hidle.closed.aliasedFunction hfunction
  obtain ⟨final, hfinal, -⟩ := hidle.closed.aliasedFunction hbound
  obtain ⟨declaration, hget⟩ := exists_get hbound
  cases hisFunction : declaration.isFunction with
  | false =>
    exact ⟨target, final, [], session, htarget, hfinal,
      by simp [recordEffect, htarget, hget, hisFunction], .ignored hget hisFunction, hidle⟩
  | true =>
    obtain ⟨arena, hadd, hclosed⟩ := exists_addEffect hidle.closed hbound heffect
    have hsize : arena.size = session.arena.size := size_of_modifyFunc hadd
    have hadded : Session.Idle { session with arena } := ⟨hidle.stack_eq, hclosed⟩
    obtain ⟨errors, after, hrun, hchecked, hafter⟩ :=
      exists_checkedEach config Flag.all hadded (by rwa [hsize] : target.number < arena.size)
        (by rw [aliasedFunction_of_addEffect hadd, hfinal]) (by rwa [hsize])
    exact ⟨target, final, errors, after, htarget, hfinal,
      by simp [recordEffect, htarget, hget, hisFunction, hadd, hrun],
      .checked hget hisFunction hadd hchecked, hafter⟩

end Session

end Declarations
