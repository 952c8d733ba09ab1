import Declarations.Proofs.Inference.Violation

/-!
# The list of broken annotations

The check of a body asks about one effect after the other, and every question about a call may
settle functions, even the callers of the function that is checked.  Nothing of that shows in the
answer.  The list of errors is read off the arena with which the check began: attribute after
attribute, and for each of them the effects in the order of the body.
-/

namespace Declarations

namespace Arena

variable {arena : Arena} {config : Config} {wanted : Attribute} {function callee : DeclId}
variable {declaration : Declaration} {effect : Effect}

/-- A call of this declaration breaks the attribute: it is no function, or a function of which the
storage class does not guarantee the attribute, and which does not have it by inference either. -/
def Lacks (arena : Arena) (config : Config) (wanted : Attribute) (callee : DeclId) : Prop :=
  ∃ declaration, arena.get callee = .ok declaration ∧
    (declaration.isFunction = false ∨
      wanted.holdsIn declaration.storage = false ∧ callee ∉ arena.selfSupporting config wanted)

/-- The effect breaks the attribute: by itself, or because of the function that is really called. -/
def Breaks (arena : Arena) (config : Config) (wanted : Attribute) (effect : Effect) : Prop :=
  match effect.callee? with
  | some named => ∃ callee, arena.aliasedFunction named = .ok callee ∧
      arena.Lacks config wanted callee
  | none => arena.breaksDirectly wanted effect = .ok true

open Classical in
/-- One error for each effect of a body that breaks an attribute of the list. -/
noncomputable def brokenAnnotations (arena : Arena) (config : Config) (function : DeclId)
    (written : List Attribute) : List DeclError :=
  written.flatMap fun wanted =>
    ((arena.effectsOf function).filter fun effect => arena.Breaks config wanted effect).map
      fun effect => .attributeViolation function wanted (some effect)

/-- What lacks the attribute is exactly what does not come out as having it. -/
theorem lacks_iff (hcallee : callee.number < arena.size) :
    arena.Lacks config wanted callee ↔ callee ∉ arena.entitled config wanted := by
  obtain ⟨declaration, hget⟩ := exists_get hcallee
  have hholds : callee ∈ arena.withStatus config wanted .holds ↔
      declaration.isFunction = true ∧ wanted.holdsIn declaration.storage = true := by
    rw [mem_withStatus_iff_of_get hget, Declaration.status_eq_holds_iff]
  have hfunction : callee ∈ arena.selfSupporting config wanted →
      declaration.isFunction = true := by
    intro hself
    have hundecided := (isGreatest_selfSupporting.1 hself).1
    rw [mem_withStatus_iff_of_get hget] at hundecided
    obtain ⟨state, hfunc, -⟩ := Declaration.exists_of_status_undecided hundecided
    simp [Declaration.isFunction, hfunc]
  have hlacks : arena.Lacks config wanted callee ↔ declaration.isFunction = false ∨
      wanted.holdsIn declaration.storage = false ∧
        callee ∉ arena.selfSupporting config wanted := by
    simp [Lacks, hget]
  rw [hlacks, entitled, Set.mem_union, hholds]
  cases hkind : declaration.isFunction with
  | false =>
    have hnot : callee ∉ arena.selfSupporting config wanted := by
      intro hself
      rw [hfunction hself] at hkind
      contradiction
    simp [hnot]
  | true => simp

/-- An effect breaks an attribute when it is not fine with all functions that have the attribute. -/
theorem breaks_iff (hclosed : arena.Closed)
    (heffect : ∀ handle ∈ effect.handles, handle.number < arena.size) :
    arena.Breaks config wanted effect ↔
      ¬arena.Allows wanted (arena.entitled config wanted) effect := by
  cases hnamed : effect.callee? with
  | some named =>
    have hbound : named.number < arena.size := by
      apply heffect
      cases effect <;> simp_all [Effect.callee?, Effect.handles]
    obtain ⟨callee, halias, hcallee⟩ := hclosed.aliasedFunction hbound
    simp [Breaks, Allows, hnamed, halias, lacks_iff hcallee]
  | none =>
    obtain ⟨broken, hbroken⟩ := exists_breaksDirectly wanted heffect
    cases broken <;> simp [Breaks, Allows, hnamed, hbroken]

/-- So a body that is checked against one attribute gives the errors of its list. -/
theorem reports_eq (hclosed : arena.Closed) :
    arena.reports config function (arena.effectsOf function) wanted =
      arena.brokenAnnotations config function [wanted] := by
  rw [brokenAnnotations, List.flatMap_singleton, reports]
  congr 1
  apply List.filter_congr
  intro effect heffect
  have hhandles : ∀ handle ∈ effect.handles, handle.number < arena.size := by
    intro handle hhandle
    exact hclosed.lt_of_mem_effectsOf heffect hhandle
  rw [decide_eq_decide, breaks_iff hclosed hhandles]

end Arena

namespace Session

open Arena

variable {arena : Arena} {function : DeclId} {declaration : Declaration}

/-- The check of a function reports, for each attribute that is written in its source, exactly the
effects of its body that break it in the arena before the check. -/
theorem verify_reports_broken (config : Config) (hclosed : arena.Closed)
    (hget : arena.get function = .ok declaration) :
    ∃ after, verify config { arena } function =
      .ok (arena.brokenAnnotations config function
        (([.purity, .safety, .nothrow, .nogc] : List Attribute).filter
          (declaration.promises ·)), after) := by
  have hidle : Session.Idle { arena } := ⟨rfl, hclosed⟩
  obtain ⟨after, hverify, -⟩ := exists_verify config hidle hget
  have hreports : arena.reports config function (arena.effectsOf function) =
      fun wanted => arena.brokenAnnotations config function [wanted] := by
    funext wanted
    exact reports_eq hclosed
  refine ⟨after, ?_⟩
  rw [hverify, hreports]
  simp only [brokenAnnotations, List.flatMap_singleton]
  rfl

/-- A function in the source of which it is written that it neither throws nor allocates.  It calls
one that calls it back, and one that calls it back and throws. -/
def annotatedCycle : Arena where
  declarations := #[
    { Declaration.ofBody [.call ⟨1⟩ .synthetic, .call ⟨2⟩ .synthetic, .gcAllocation .synthetic] with
      storage := {.nothrow, .nogc} },
    .ofBody [.call ⟨0⟩ .synthetic],
    .ofBody [.call ⟨0⟩ .synthetic, .throwing .synthetic]]

theorem verify_reports_broken_annotatedCycle :
    annotatedCycle.Closed ∧
    ∃ declaration, annotatedCycle.get ⟨0⟩ = .ok declaration ∧
    ∃ after, verify {} { arena := annotatedCycle } ⟨0⟩ =
        .ok (annotatedCycle.brokenAnnotations {} ⟨0⟩
          (([.purity, .safety, .nothrow, .nogc] : List Attribute).filter
            (declaration.promises ·)), after) ∧
      annotatedCycle.brokenAnnotations {} ⟨0⟩
          (([.purity, .safety, .nothrow, .nogc] : List Attribute).filter
            (declaration.promises ·)) =
        [.attributeViolation ⟨0⟩ .nothrow (some (.call ⟨2⟩ .synthetic)),
          .attributeViolation ⟨0⟩ .nogc (some (.gcAllocation .synthetic))] := by
  have hclosed : annotatedCycle.Closed := by decide
  obtain ⟨declaration, hget⟩ : ∃ declaration, annotatedCycle.get ⟨0⟩ = .ok declaration :=
    ⟨_, rfl⟩
  obtain ⟨after, hverify⟩ := verify_reports_broken {} hclosed hget
  refine ⟨hclosed, declaration, hget, after, hverify, ?_⟩
  have hrun : (verify {} { arena := annotatedCycle } ⟨0⟩).map Prod.fst =
      .ok [.attributeViolation ⟨0⟩ .nothrow (some (.call ⟨2⟩ .synthetic)),
        .attributeViolation ⟨0⟩ .nogc (some (.gcAllocation .synthetic))] := by
    rfl
  rw [hverify, ok_map, Except.ok.injEq] at hrun
  exact hrun

end Session

end Declarations
