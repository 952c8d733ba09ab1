import Declarations.Proofs.Inference.LateEffect

/-!
# Arenas with the same record of an attribute

What inference finds out about an attribute, and what it takes back, depends on the record of that
attribute alone.  So two arenas with the same record of some attributes go through every question
about one of them side by side: the answers are the same, and the records are the same afterwards.
Of the configuration only one thing matters, whether the attribute may be inferred.
-/

namespace Declarations

namespace Func

variable {state other : Func} {kept : Attributes} {wanted : Attribute}

theorem mem_inferred_congr (hkeep : state.keep kept = other.keep kept) (hwanted : wanted ∈ kept) :
    wanted ∈ state.inferred ↔ wanted ∈ other.inferred := by
  have hsame : wanted ∈ (state.keep kept).inferred ↔ wanted ∈ (other.keep kept).inferred := by
    rw [hkeep]
  simpa [keep, hwanted] using hsame

theorem mem_concluded_congr (hkeep : state.keep kept = other.keep kept) (hwanted : wanted ∈ kept) :
    wanted ∈ state.concluded ↔ wanted ∈ other.concluded := by
  have hsame : wanted ∈ (state.keep kept).concluded ↔ wanted ∈ (other.keep kept).concluded := by
    rw [hkeep]
  simpa [keep, hwanted] using hsame

end Func

namespace Declaration

variable {declaration left right : Declaration} {state : Func} {kept : Attributes}
  {wanted : Attribute}

theorem exists_asFunc?_of_keep_eq (hkeep : left.keep kept = right.keep kept)
    (hfunc : left.asFunc? = some state) :
    ∃ other, right.asFunc? = some other ∧ state.keep kept = other.keep kept := by
  have hsame : left.asFunc?.map (Func.keep kept) = right.asFunc?.map (Func.keep kept) := by
    rw [← asFunc?_keep, hkeep, asFunc?_keep]
  rw [hfunc, Option.map_some, eq_comm, Option.map_eq_some_iff] at hsame
  obtain ⟨other, hother, hstate⟩ := hsame
  exact ⟨other, hother, hstate.symm⟩

theorem asFunc?_eq_none_of_keep_eq (hkeep : left.keep kept = right.keep kept)
    (hfunc : left.asFunc? = none) : right.asFunc? = none := by
  have hsame : left.asFunc?.map (Func.keep kept) = right.asFunc?.map (Func.keep kept) := by
    rw [← asFunc?_keep, hkeep, asFunc?_keep]
  simpa [hfunc, eq_comm] using hsame

/-- A conclusion about a kept attribute is kept. -/
theorem keep_conclude_of_mem (hwanted : wanted ∈ kept) (holds : Bool) :
    (declaration.conclude wanted holds).keep kept =
      (declaration.keep kept).conclude wanted holds := by
  cases hfunc : declaration.asFunc? with
  | none =>
    have hkept : (declaration.keep kept).asFunc? = none := by rw [asFunc?_keep, hfunc]; rfl
    simp [conclude, hfunc, hkept]
  | some state =>
    have hkept : (declaration.keep kept).asFunc? = some (state.keep kept) := by
      rw [asFunc?_keep, hfunc, Option.map_some]
    have hflag : wanted.flag ∉ kept.others.storage := by
      rw [Attributes.mem_storage]
      rintro ⟨guarantee, hother, hsame⟩
      rw [Attribute.flag_inj.mp hsame] at hother
      exact Attributes.mem_others.mp hother hwanted
    rw [keep_of_asFunc? (asFunc?_conclude hfunc holds), conclude_of_asFunc? hkept,
      conclude_of_asFunc? hfunc, keep_of_asFunc? hfunc]
    congr 1
    · cases holds with
      | false => rfl
      | true =>
        ext mark
        simp only [if_true, FlagSet.mem_sdiff, FlagSet.mem_insert]
        by_cases hmark : mark = wanted.flag
        · simp [hmark, hflag]
        · simp [hmark]
    · simp only [Func.keep, Entity.func.injEq, Func.mk.injEq, true_and, and_true]
      constructor <;> (ext guarantee; cases holds <;> simp) <;> grind

/-- A withdrawal does not depend on the record. -/
theorem keep_withdraw_eq (declaration : Declaration) (kept : Attributes) (wanted : Attribute) :
    (declaration.withdraw wanted).keep kept = (declaration.keep kept).withdraw wanted := by
  cases hfunc : declaration.asFunc? with
  | none =>
    have hwithdrawn : (declaration.withdraw wanted).asFunc? = none := by
      have hmapped : (declaration.mapFunc fun state =>
          { state with inferred := state.inferred \ {wanted} }).asFunc? = none := by
        rw [asFunc?_mapFunc, hfunc, Option.map_none]
      exact hmapped
    rw [keep_of_asFunc?_eq_none hfunc, keep_of_asFunc?_eq_none hwithdrawn]
  | some state =>
    have hkept : (declaration.keep kept).asFunc? = some (state.keep kept) := by
      rw [asFunc?_keep, hfunc, Option.map_some]
    rw [keep_of_asFunc? (asFunc?_withdraw hfunc), withdraw_of_asFunc? hkept,
      withdraw_of_asFunc? hfunc, keep_of_asFunc? hfunc]
    congr 1
    · ext mark
      simp only [FlagSet.mem_sdiff]
      tauto
    · simp only [Func.keep, Entity.func.injEq, Func.mk.injEq, true_and, and_true]
      ext guarantee
      simp only [FlagSet.mem_inter, FlagSet.mem_sdiff]
      tauto

/-! ## Declarations with the same record -/

section Congruence

variable (hkeep : left.keep kept = right.keep kept)
include hkeep

theorem isFunction_congr : left.isFunction = right.isFunction := by
  have hsame : (left.keep kept).isFunction = (right.keep kept).isFunction := by rw [hkeep]
  rwa [isFunction_keep, isFunction_keep] at hsame

theorem span_congr : left.span = right.span := by
  have hspan : ∀ declaration : Declaration, (declaration.keep kept).span = declaration.span := by
    intro declaration
    cases hfunc : declaration.asFunc? with
    | none => rw [keep_of_asFunc?_eq_none hfunc]
    | some state => rw [keep_of_asFunc? hfunc]
  rw [← hspan, hkeep, hspan]

theorem effects_congr : left.asFunc?.map Func.effects = right.asFunc?.map Func.effects := by
  have hsame : (left.keep kept).asFunc?.map Func.effects =
      (right.keep kept).asFunc?.map Func.effects := by rw [hkeep]
  rwa [effects_keep, effects_keep] at hsame

/-- The same conclusion leads to the same record. -/
theorem conclude_congr (wanted : Attribute) (holds : Bool) :
    (left.conclude wanted holds).keep kept = (right.conclude wanted holds).keep kept := by
  by_cases hwanted : wanted ∈ kept
  · rw [keep_conclude_of_mem hwanted, hkeep, keep_conclude_of_mem hwanted]
  · rw [keep_conclude hwanted, hkeep, keep_conclude hwanted]

theorem withdraw_congr (wanted : Attribute) :
    (left.withdraw wanted).keep kept = (right.withdraw wanted).keep kept := by
  rw [keep_withdraw_eq, hkeep, keep_withdraw_eq]

/-- What is known about a kept attribute is the same under configurations that agree on whether it
may be inferred. -/
theorem status_congr {config rival : Config} (hwanted : wanted ∈ kept)
    (hagree : config.inferable.contains wanted = rival.inferable.contains wanted) :
    left.status config wanted = right.status rival wanted := by
  rw [← status_keep hwanted, hkeep, status_keep hwanted]
  unfold status
  rw [hagree]

theorem isWritten_congr (hwanted : wanted ∈ kept) {other : Func} (hfunc : left.asFunc? = some state)
    (hother : right.asFunc? = some other) :
    left.isWritten state wanted = right.isWritten other wanted := by
  obtain ⟨found, hfound, hstate⟩ := exists_asFunc?_of_keep_eq hkeep hfunc
  obtain rfl : other = found := Option.some.inj (hother.symm.trans hfound)
  have hinferred := Func.mem_inferred_congr hstate hwanted
  have hcarries : wanted.flag ∈ left.storage ↔ wanted.flag ∈ right.storage := by
    have hflag : ∀ guarantee : Attribute, guarantee.flag = wanted.flag → guarantee ∈ kept := by
      simpa using hwanted
    rw [← mem_storage_keep hflag, hkeep, mem_storage_keep hflag]
  rw [FlagSet.mem_iff, FlagSet.mem_iff] at hinferred hcarries
  rw [isWritten, isWritten, carries, carries, Bool.eq_iff_iff.mpr hinferred,
    Bool.eq_iff_iff.mpr hcarries]

end Congruence

end Declaration

namespace Arena

variable {left right : Arena} {kept : Attributes} {wanted : Attribute}
  {config rival : Config}

section Congruence

variable (hkeep : left.keep kept = right.keep kept)
include hkeep

theorem get_alike (id : DeclId) : Alike (Declaration.keep kept) (left.get id) (right.get id) := by
  rw [Alike, ← get_keep, hkeep, get_keep]

/-- A change that leads from the same record to the same record can be made in both arenas. -/
theorem modify_alike {change : Declaration → Declaration}
    (hchange : ∀ first second : Declaration, first.keep kept = second.keep kept →
      (change first).keep kept = (change second).keep kept) (id : DeclId) :
    Alike (keep kept) (left.modify id change) (right.modify id change) := by
  have hsize : left.size = right.size := size_of_keep_eq hkeep
  simp only [keep, mk.injEq] at hkeep
  obtain ⟨hdeclarations, hrest⟩ := hkeep
  simp only [modify, hsize]
  split
  · apply Alike.ok
    simp only [keep, mk.injEq]
    refine ⟨?_, hrest⟩
    apply Array.ext_getElem?
    intro place
    have hplace := congrArg (·[place]?) hdeclarations
    simp only [Array.getElem?_map, Array.getElem?_modify] at hplace ⊢
    split
    · cases hfirst : left.declarations[place]? <;> cases hsecond : right.declarations[place]? <;>
        simp only [hfirst, hsecond, Option.map_some, Option.map_none, reduceCtorEq,
          Option.some.injEq] at hplace ⊢
      exact hchange _ _ hplace
    · exact hplace
  · exact .refl _

/-- The attribute is taken back in both arenas or in neither. -/
theorem withdraw_alike (hwanted : wanted ∈ kept) (function : DeclId) (cause : Option Effect) :
    Alike (Prod.map id (keep kept)) (left.withdraw function wanted cause)
      (right.withdraw function wanted cause) := by
  apply (get_alike hkeep function).bind
  intro first second hsame
  cases hfunc : first.asFunc? with
  | none =>
    rw [Declaration.asFunc?_eq_none_of_keep_eq hsame hfunc]
    exact .answer hkeep
  | some state =>
    obtain ⟨other, hother, hstate⟩ := Declaration.exists_asFunc?_of_keep_eq hsame hfunc
    have htrusted : first.storage.contains .trusted = second.storage.contains .trusted := by
      rw [Bool.eq_iff_iff, ← FlagSet.mem_iff, ← FlagSet.mem_iff, ← Declaration.mem_trusted_keep,
        hsame, Declaration.mem_trusted_keep]
    have hinferred : state.inferred.contains wanted = other.inferred.contains wanted := by
      rw [Bool.eq_iff_iff, ← FlagSet.mem_iff, ← FlagSet.mem_iff]
      exact Func.mem_inferred_congr hstate hwanted
    simp only [hother, htrusted, hinferred,
      Declaration.isWritten_congr hsame hwanted hfunc hother]
    split
    · exact .answer hkeep
    · split
      · exact .answer hkeep
      · split
        · apply (modify_alike hkeep (fun _ _ hsame => Declaration.withdraw_congr hsame wanted)
            function).bind
          intro _ _ hchanged
          exact .answer hchanged
        · exact .answer hkeep

end Congruence

/-! ## The calls of functions that have the attribute -/

@[simp]
theorem callEdges_keep (arena : Arena) (kept : Attributes) (caller : DeclId)
    (effects : List Effect) :
    (arena.keep kept).callEdges caller effects = arena.callEdges caller effects := by
  induction effects with
  | nil => rfl
  | cons effect effects ih => simp only [callEdges, aliasedFunction_keep, ih]

theorem edgesOf_keep (arena : Arena) (hwanted : wanted ∈ kept) (caller : DeclId)
    (declaration : Declaration) :
    (arena.keep kept).edgesOf wanted caller (declaration.keep kept) =
      arena.edgesOf wanted caller declaration := by
  rw [edgesOf, edgesOf, Declaration.asFunc?_keep, Declaration.holdsIn_keep hwanted]
  cases declaration.asFunc? with
  | none => rfl
  | some state =>
    rw [Option.map_some]
    simp only [callEdges_keep]
    rfl

theorem holdingEdges_keep (arena : Arena) (hwanted : wanted ∈ kept) :
    (arena.keep kept).holdingEdges wanted = arena.holdingEdges wanted := by
  have hentries : (arena.keep kept).declarations.toList.zipIdx =
      arena.declarations.toList.zipIdx.map
        (Prod.map (Declaration.keep kept) fun number => number) := by
    simp only [keep, Array.toList_map, List.zipIdx_map]
    rfl
  rw [holdingEdges, holdingEdges, hentries, List.mapM_map]
  congr 2
  funext entry
  exact edgesOf_keep arena hwanted ⟨entry.2⟩ entry.1

end Arena

namespace Retreat

def keep (kept : Attributes) (retreat : Retreat) : Retreat :=
  { retreat with arena := retreat.arena.keep kept }

variable {left right : Retreat} {kept : Attributes} {wanted : Attribute}

theorem keep_eq_iff : left.keep kept = right.keep kept ↔
    left.arena.keep kept = right.arena.keep kept ∧ left.waiting = right.waiting ∧
      left.seen = right.seen ∧ left.errors = right.errors := by
  simp only [keep, mk.injEq]

theorem lookAt_alike (hkeep : left.keep kept = right.keep kept) (hwanted : wanted ∈ kept)
    (edge : CallEdge) : Alike (keep kept) (lookAt wanted left edge) (lookAt wanted right edge) := by
  obtain ⟨leftArena, waiting, seen, errors⟩ := left
  obtain ⟨rightArena, _, _, _⟩ := right
  obtain ⟨harena, rfl, rfl, rfl⟩ := keep_eq_iff.mp hkeep
  simp only [lookAt]
  split
  · exact .ok (by simp [keep, harena])
  · apply (Arena.withdraw_alike harena hwanted edge.caller (some edge.effect)).bind_answer
    intro result changed other hchanged
    cases result <;> exact .ok (by simp [keep, hchanged])

theorem run_alike (hkeep : left.keep kept = right.keep kept) (hwanted : wanted ∈ kept)
    (edges : List CallEdge) (rounds : Nat) :
    Alike (keep kept) (run wanted edges rounds left) (run wanted edges rounds right) := by
  induction rounds generalizing left right with
  | zero => exact .refl _
  | succ rounds ih =>
    simp only [run, (keep_eq_iff.mp hkeep).2.1]
    split
    · exact .ok hkeep
    · next callee waiting _ =>
      have hpopped : keep kept { left with waiting } = keep kept { right with waiting } :=
        congrArg (fun retreat : Retreat => { retreat with waiting }) hkeep
      apply (Alike.foldlM (fun _ _ edge hsame => lookAt_alike hsame hwanted edge) hpopped).bind
      intro _ _ hlooked
      exact ih hlooked

end Retreat

namespace Arena

variable {left right : Arena} {kept : Attributes} {wanted : Attribute} {config rival : Config}

section Congruence

variable (hkeep : left.keep kept = right.keep kept) (hwanted : wanted ∈ kept)
include hkeep hwanted

theorem downgradeCallers_alike (callee : DeclId) :
    Alike (Prod.map id (keep kept)) (left.downgradeCallers callee wanted)
      (right.downgradeCallers callee wanted) := by
  have hedges : left.holdingEdges wanted = right.holdingEdges wanted := by
    rw [← holdingEdges_keep left hwanted, hkeep, holdingEdges_keep right hwanted]
  rw [downgradeCallers, downgradeCallers, hedges, size_of_keep_eq hkeep]
  apply Alike.bind_same (right.holdingEdges wanted)
  intro edges
  have hstart : Retreat.keep kept { arena := left, waiting := [callee] } =
      Retreat.keep kept { arena := right, waiting := [callee] } := by
    simp only [Retreat.keep, hkeep]
  apply (Retreat.run_alike hstart hwanted edges _).bind
  intro _ _ hdone
  obtain ⟨harena, -, -, herrors⟩ := Retreat.keep_eq_iff.mp hdone
  exact .ok (Prod.ext herrors harena)

variable (hagree : config.inferable.contains wanted = rival.inferable.contains wanted)
include hagree

theorem refuse_alike (function : DeclId) :
    Alike (keep kept) (left.refuse config function wanted)
      (right.refuse rival function wanted) := by
  apply (get_alike hkeep function).bind
  intro first second hsame
  rw [Declaration.status_congr hsame hwanted hagree]
  split
  · exact modify_alike hkeep (fun _ _ hsame => Declaration.conclude_congr hsame wanted false)
      function
  · exact .ok hkeep

theorem downgrade_alike (function : DeclId) (cause : Option Effect) :
    Alike (Prod.map id (keep kept)) (left.downgrade config function wanted cause)
      (right.downgrade rival function wanted cause) := by
  rw [downgrade, downgrade, aliasedFunction_of_keep_eq hkeep]
  apply Alike.bind_same (right.aliasedFunction function)
  intro target
  apply (withdraw_alike hkeep hwanted target cause).bind_answer
  intro result changed other hchanged
  cases result with
  | dropped => exact downgradeCallers_alike hchanged hwanted target
  | nothing =>
    apply (refuse_alike hchanged hwanted hagree target).bind
    intro _ _ hrefused
    exact .answer hrefused
  | violated cause => exact .answer hchanged

end Congruence

end Arena

namespace Session

def keep (kept : Attributes) (session : Session) : Session :=
  { session with arena := session.arena.keep kept }

variable {left right : Session} {kept : Attributes} {wanted : Attribute} {config rival : Config}

theorem keep_eq_iff : left.keep kept = right.keep kept ↔
    left.arena.keep kept = right.arena.keep kept ∧ left.stack = right.stack := by
  simp only [keep, mk.injEq]

theorem concludeAll_alike {left right : Arena} (hkeep : left.keep kept = right.keep kept)
    (holds : Bool) (frames : List Frame) :
    Alike (Arena.keep kept) (concludeAll holds left frames) (concludeAll holds right frames) := by
  induction frames generalizing left right with
  | nil => exact .ok hkeep
  | cons frame frames ih =>
    apply (Arena.modify_alike hkeep
      (fun _ _ hsame => Declaration.conclude_congr hsame frame.wanted holds) frame.function).bind
    intro _ _ hconcluded
    exact ih hconcluded

theorem settleFrom_alike (hkeep : left.keep kept = right.keep kept) (depth : Nat) (holds : Bool) :
    Alike (keep kept) (left.settleFrom depth holds) (right.settleFrom depth holds) := by
  obtain ⟨harena, hstack⟩ := keep_eq_iff.mp hkeep
  rw [settleFrom, settleFrom, hstack]
  apply (concludeAll_alike harena holds _).bind
  intro _ _ hconcluded
  exact .ok (keep_eq_iff.mpr ⟨hconcluded, rfl⟩)

/-- Two ways to look into functions that look alike from sessions with the same record. -/
def EnterAlike (kept : Attributes)
    (first second : Session → DeclId → Except Fault (Verdict × Session)) : Prop :=
  ∀ (left right : Session), left.keep kept = right.keep kept → ∀ function,
    Alike (Prod.map id (keep kept)) (first left function) (second right function)

section Effects

variable {first second : Session → DeclId → Except Fault (Verdict × Session)}
  (henter : EnterAlike kept first second)
include henter

theorem judgeEffect_alike (hkeep : left.keep kept = right.keep kept) (wanted : Attribute)
    (effect : Effect) :
    Alike (Prod.map id (keep kept)) (judgeEffect first wanted left effect)
      (judgeEffect second wanted right effect) := by
  have harena := (keep_eq_iff.mp hkeep).1
  cases hnamed : effect.callee? with
  | none =>
    have hbroken : left.arena.breaksDirectly wanted effect =
        right.arena.breaksDirectly wanted effect := by
      rw [← Arena.breaksDirectly_keep, harena, Arena.breaksDirectly_keep]
    simp only [judgeEffect, hnamed, hbroken]
    apply Alike.bind_same
    intro broken
    exact .answer hkeep
  | some callee =>
    simp only [judgeEffect, hnamed, Arena.aliasedFunction_of_keep_eq harena]
    apply Alike.bind_same
    intro function
    apply (Arena.get_alike harena function).bind
    intro declaration other hsame
    rw [Declaration.isFunction_congr hsame]
    split
    · exact henter left right hkeep function
    · exact .answer hkeep

theorem judgeEffects_alike (hkeep : left.keep kept = right.keep kept) (wanted : Attribute)
    (relies : Option Nat) (effects : List Effect) :
    Alike (Prod.map id (keep kept)) (judgeEffects first wanted left relies effects)
      (judgeEffects second wanted right relies effects) := by
  induction effects generalizing left right relies with
  | nil => exact .answer hkeep
  | cons effect effects ih =>
    apply (judgeEffect_alike henter hkeep wanted effect).bind_answer
    intro verdict left right hjudged
    cases verdict with
    | fails => exact .answer hjudged
    | holds further => exact ih hjudged (Verdict.oldest relies further)

end Effects

section Questions

variable (hwanted : wanted ∈ kept)
  (hagree : config.inferable.contains wanted = rival.inferable.contains wanted)
include hwanted hagree

/-- What is found out about a kept attribute of a function depends on the record of the kept
attributes alone, and of the configuration on no more than whether the attribute may be inferred. -/
theorem enter_alike (levels : Nat) :
    EnterAlike kept (enter config wanted levels) (enter rival wanted levels) := by
  induction levels with
  | zero =>
    intro left right _ function
    exact .refl _
  | succ levels ih =>
    intro left right hkeep function
    obtain ⟨harena, hstack⟩ := keep_eq_iff.mp hkeep
    apply (Arena.get_alike harena function).bind
    intro declaration other hsame
    rw [Declaration.status_congr hsame hwanted hagree, hstack]
    cases other.status rival wanted with
    | holds => exact .answer hkeep
    | fails => exact .answer hkeep
    | undecided =>
      cases right.stack.place? ⟨function, wanted⟩ with
      | some place => exact .answer hkeep
      | none =>
        have hopened : keep kept (left.push ⟨function, wanted⟩) =
            keep kept (right.push ⟨function, wanted⟩) :=
          keep_eq_iff.mpr ⟨harena, by rw [push, push, hstack]⟩
        simp only [Declaration.effects_congr hsame]
        apply (judgeEffects_alike ih hopened wanted none _).bind_answer
        intro verdict left right hjudged
        cases verdict with
        | fails =>
          apply (settleFrom_alike hjudged _ false).bind
          intro _ _ hsettled
          exact .answer hsettled
        | holds relies =>
          simp only
          split
          · apply (settleFrom_alike hjudged _ true).bind
            intro _ _ hsettled
            exact .answer hsettled
          · exact .answer hjudged

theorem judge_alike : EnterAlike kept (judge config wanted) (judge rival wanted) := by
  intro left right hkeep function
  rw [judge, judge, Arena.size_of_keep_eq (keep_eq_iff.mp hkeep).1]
  exact enter_alike hwanted hagree _ left right hkeep function

variable (hkeep : left.keep kept = right.keep kept)
include hkeep

theorem infer_alike (function : DeclId) :
    Alike (Prod.map id (keep kept)) (left.infer config function wanted)
      (right.infer rival function wanted) := by
  rw [infer, infer, Arena.aliasedFunction_of_keep_eq (keep_eq_iff.mp hkeep).1]
  apply Alike.bind_same (right.arena.aliasedFunction function)
  intro target
  apply (judge_alike hwanted hagree left right hkeep target).bind_answer
  intro verdict left right hjudged
  exact .answer hjudged

theorem breaks_alike (effect : Effect) :
    Alike (Prod.map id (keep kept)) (left.breaks config wanted effect)
      (right.breaks rival wanted effect) := by
  apply (judgeEffect_alike (judge_alike hwanted hagree) hkeep wanted effect).bind_answer
  intro verdict left right hjudged
  exact .answer hjudged

end Questions

end Session

end Declarations
