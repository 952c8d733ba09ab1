import Declarations.Proofs.Inference.Written

/-!
# Reports of broken attributes

An attribute that is written in the source is a promise, and every effect of the body that breaks it
is reported: at once if the effect is found late, and once more when the body is checked as a whole.
The late check takes attributes away from this function and from its callers while it goes on, so
the body is checked in another arena afterwards.  Still both report the new effect for the same
attributes, because neither what is written nor what a written attribute allows has changed.
-/

namespace Declarations

open Relation

namespace Declaration

def safetyLevels : List StorageFlag :=
  [.safe, .trusted, .system]

/-- No two of these marks stand together. -/
def HasOneSafetyLevel (declaration : Declaration) : Prop :=
  ∀ first ∈ safetyLevels, ∀ second ∈ safetyLevels,
    first ∈ declaration.storage → second ∈ declaration.storage → first = second

instance (declaration : Declaration) : Decidable declaration.HasOneSafetyLevel :=
  inferInstanceAs (Decidable (∀ first ∈ safetyLevels, ∀ second ∈ safetyLevels,
    first ∈ declaration.storage → second ∈ declaration.storage → first = second))

def promises (wanted : Attribute) (declaration : Declaration) : Bool :=
  declaration.asFunc?.any fun state => declaration.isWritten state wanted

variable {declaration next : Declaration} {state : Func} {config : Config} {wanted : Attribute}

/-- What is written is in the storage class, and inference has not put it there. -/
theorem promises_iff : declaration.promises wanted = true ↔
    declaration.isFunction = true ∧ wanted.flag ∈ declaration.writtenStorage := by
  cases hfunc : declaration.asFunc? with
  | none => simp [promises, isFunction, hfunc]
  | some state =>
    have hinferred : wanted.flag ∈ state.inferred.storage ↔ wanted ∈ state.inferred := by
      simp [Attributes.mem_storage]
    rw [writtenStorage, inferredStorage_of_asFunc? hfunc, FlagSet.mem_sdiff, hinferred]
    simp [promises, isFunction, hfunc, isWritten, carries, FlagSet.mem_iff]

theorem not_isWithdrawable_of_promises (hpromises : declaration.promises wanted = true) :
    declaration.isWithdrawable wanted = false := by
  rw [← Bool.not_eq_true]
  intro hwithdrawable
  obtain ⟨state, hfunc, hinferred, -⟩ := exists_of_isWithdrawable hwithdrawable
  rw [FlagSet.mem_iff] at hinferred
  simp [promises, hfunc, isWritten, hinferred] at hpromises

theorem status_of_promises (config : Config) (hpromises : declaration.promises wanted = true) :
    declaration.status config wanted = .holds := by
  obtain ⟨hfunction, hwritten⟩ := promises_iff.mp hpromises
  have hmem : wanted.flag ∈ declaration.storage := (FlagSet.mem_sdiff.mp hwritten).1
  exact status_eq_holds_iff.mpr ⟨hfunction, Attribute.holdsIn_iff.mpr (.inl hmem)⟩

theorem Revises.promises_eq (hrevises : Revises config declaration next) :
    next.promises wanted = declaration.promises wanted := by
  rw [Bool.eq_iff_iff, promises_iff, promises_iff, hrevises.isFunction_eq,
    hrevises.writtenStorage_eq]

end Declaration

namespace Arena

def Promises (arena : Arena) (function : DeclId) (wanted : Attribute) : Prop :=
  ∃ declaration, arena.get function = .ok declaration ∧ declaration.promises wanted = true

def Trusts (arena : Arena) (function : DeclId) : Prop :=
  ∃ declaration, arena.get function = .ok declaration ∧ .trusted ∈ declaration.storage

def BreaksPromise (arena : Arena) (config : Config) (function : DeclId) (effect : Effect)
    (wanted : Attribute) : Prop :=
  arena.Promises function wanted ∧ ¬arena.Allows wanted (arena.entitled config wanted) effect

open Classical in
noncomputable def reports (arena : Arena) (config : Config) (function : DeclId)
    (effects : List Effect) (wanted : Attribute) : List DeclError :=
  (effects.filter fun effect => ¬arena.Allows wanted (arena.entitled config wanted) effect).map
    fun effect => .attributeViolation function wanted (some effect)

variable {arena before after : Arena} {config : Config} {function : DeclId}
  {wanted about : Attribute} {declaration : Declaration} {state : Func} {effect : Effect}
  {effects : List Effect}

theorem promises_iff_of_get (hget : arena.get function = .ok declaration) :
    arena.Promises function wanted ↔ declaration.promises wanted = true := by
  simp [Promises, hget]

theorem trusts_iff_of_get (hget : arena.get function = .ok declaration) :
    arena.Trusts function ↔ .trusted ∈ declaration.storage := by
  simp [Trusts, hget]

/-- A function of one safety level that promises to be safe is not merely trusted. -/
theorem Promises.not_trusts (hpromises : arena.Promises function .safety)
    (hget : arena.get function = .ok declaration) (hlevel : declaration.HasOneSafetyLevel) :
    ¬arena.Trusts function := by
  intro htrusts
  rw [promises_iff_of_get hget, Declaration.promises_iff] at hpromises
  rw [trusts_iff_of_get hget] at htrusts
  have hsafe : .safe ∈ declaration.storage := (FlagSet.mem_sdiff.mp hpromises.2).1
  have hlevels := hlevel .safe (by decide) .trusted (by decide) hsafe htrusts
  contradiction

/-- No change touches what is written. -/
theorem Evolves.promises_iff (hevolves : Evolves config before after) :
    after.Promises function wanted ↔ before.Promises function wanted := by
  have hread : ∀ arena : Arena, arena.Promises function wanted ↔
      (arena.get function).map (Declaration.promises wanted) = .ok true := by
    intro arena
    cases hget : arena.get function <;> simp [Promises, hget]
  rw [hread, hread, hevolves.observe_eq Declaration.Revises.promises_eq]

theorem Evolves.trusts_iff (hevolves : Evolves config before after) :
    after.Trusts function ↔ before.Trusts function := by
  have hread : ∀ arena : Arena, arena.Trusts function ↔
      (arena.get function).map (fun declaration => declaration.storage.contains .trusted) =
        .ok true := by
    intro arena
    cases hget : arena.get function <;> simp [Trusts, hget, FlagSet.mem_iff]
  rw [hread, hread, hevolves.observe_eq fun hrevises => ?_]
  rw [Bool.eq_iff_iff]
  exact hrevises.mem_storage_iff (by intro guarantee; cases guarantee <;> simp [Attribute.flag])

theorem mem_reports {error : DeclError} :
    error ∈ arena.reports config function effects wanted ↔
      ∃ effect ∈ effects, ¬arena.Allows wanted (arena.entitled config wanted) effect ∧
        .attributeViolation function wanted (some effect) = error := by
  simp [reports, and_assoc]

theorem reports_congr {left right : Arena} (hentitled : left.entitled config wanted =
      right.entitled config wanted) (houtline : left.keep ∅ = right.keep ∅) :
    left.reports config function effects wanted = right.reports config function effects wanted := by
  unfold reports
  rw [hentitled]
  congr 1
  apply List.filter_congr
  intro effect _
  rw [decide_eq_decide, allows_congr houtline]

end Arena

namespace Session

open Arena

variable {session after : Session} {config : Config} {function : DeclId} {wanted about : Attribute}
  {declaration : Declaration} {state : Func} {effect : Effect} {effects : List Effect}

/-! ## The check of the whole body -/

/-- The check of a body against one attribute reports every effect that breaks it. -/
theorem exists_violations (config : Config) (function : DeclId) (about : Attribute)
    (hidle : session.Idle)
    (heffects : ∀ effect ∈ effects, ∀ handle ∈ effect.handles,
      handle.number < session.arena.size) :
    ∃ after, violations config function about session effects =
        .ok (session.arena.reports config function effects about, after) ∧
      after.Idle ∧ Learns config about session.arena after.arena := by
  induction effects generalizing session with
  | nil => exact ⟨session, rfl, hidle, .refl⟩
  | cons effect effects ih =>
    rw [List.forall_mem_cons] at heffects
    obtain ⟨broken, middle, hbreaks, hanswered⟩ := breaks_answered config about hidle heffects.1
    have hlearns := hanswered.learns
    rw [← hlearns.size_eq] at heffects
    obtain ⟨after, hrest, hafter, hlater⟩ := ih hanswered.idle heffects.2
    rw [reports_congr (hlearns.entitled_eq about) hlearns.outline_eq] at hrest
    have hbroken : broken = true ↔
        ¬session.arena.Allows about (session.arena.entitled config about) effect := by
      rw [← hanswered.holds_iff fun hsubset hallows => hallows.mono hsubset]
      simp
    refine ⟨after, ?_, hafter, hlearns.trans hlater⟩
    simp only [violations, hbreaks, hrest, ok_bind, pure_eq_ok]
    cases broken <;> simp_all [reports]

/-- The check against several attributes reports every effect that breaks one of them. -/
theorem exists_violationsOfEach (config : Config) (function : DeclId) (hidle : session.Idle)
    (heffects : ∀ effect ∈ effects, ∀ handle ∈ effect.handles,
      handle.number < session.arena.size) (attributes : List Attribute) :
    ∃ after, violationsOfEach config function effects session attributes =
        .ok (attributes.flatMap (session.arena.reports config function effects), after) ∧
      Follows config session after := by
  induction attributes generalizing session with
  | nil => exact ⟨session, rfl, hidle.follows⟩
  | cons about attributes ih =>
    obtain ⟨middle, hfirst, hmiddle, hlearns⟩ :=
      exists_violations config function about hidle heffects
    rw [← hlearns.size_eq] at heffects
    obtain ⟨after, hrest, hafter⟩ := ih hmiddle heffects
    have hreports : middle.arena.reports config function effects =
        session.arena.reports config function effects := by
      funext wanted
      exact reports_congr (hlearns.entitled_eq wanted) hlearns.outline_eq
    rw [hreports] at hrest
    refine ⟨after, ?_, hafter.idle, hlearns.grows.trans hafter.grows⟩
    simp only [violationsOfEach, hfirst, hrest, ok_bind, pure_eq_ok, List.flatMap_cons]

/-- The check of a function reports, for every attribute that is written in its source, every effect
of the body that breaks it. -/
theorem exists_verify (config : Config) (hidle : session.Idle)
    (hget : session.arena.get function = .ok declaration) :
    ∃ after, session.verify config function =
        .ok (((Flag.all : List Attribute).filter (declaration.promises ·)).flatMap
          (session.arena.reports config function (session.arena.effectsOf function)), after) ∧
      Follows config session after := by
  cases hfunc : declaration.asFunc? with
  | none =>
    have hpromises : declaration.promises = fun _ => false := by
      funext wanted
      simp [Declaration.promises, hfunc]
    exact ⟨session, by simp [verify, hget, hfunc, hpromises], hidle.follows⟩
  | some state =>
    have hpromises : declaration.promises = declaration.isWritten state := by
      funext wanted
      simp [Declaration.promises, hfunc]
    obtain ⟨after, hrun, hafter⟩ := exists_violationsOfEach config function hidle
      (fun effect heffect handle hhandle => hidle.closed.lt_of_mem_handles hget
        (mem_handles_of_effect hfunc heffect hhandle))
      ((Flag.all : List Attribute).filter (declaration.isWritten state))
    refine ⟨after, ?_, hafter⟩
    simp only [verify, hget, hfunc, ok_bind, hrun, hpromises, effectsOf_of_get hget hfunc]

/-- So an effect is reported for an attribute when it is in the body and breaks what is written. -/
theorem exists_verify_iff (config : Config) (hidle : session.Idle)
    (hfunction : function.number < session.arena.size) :
    ∃ found after, session.verify config function = .ok (found, after) ∧
      ∀ wanted effect, .attributeViolation function wanted (some effect) ∈ found ↔
        effect ∈ session.arena.effectsOf function ∧
          session.arena.BreaksPromise config function effect wanted := by
  obtain ⟨declaration, hget⟩ := exists_get hfunction
  obtain ⟨after, hverify, -⟩ := exists_verify config hidle hget
  refine ⟨_, after, hverify, fun wanted effect => ?_⟩
  simp only [List.mem_flatMap, List.mem_filter, mem_reports, Flag.mem_all, true_and,
    DeclError.attributeViolation.injEq, Option.some.injEq, BreaksPromise, promises_iff_of_get hget]
  grind

end Session

namespace Arena

variable {arena start after : Arena} {config : Config} {function root : DeclId}
  {wanted about : Attribute} {declaration : Declaration} {state : Func} {errors : List DeclError}
  {cause reported : Option Effect}

/-! ## Reports of a downgrade -/

/-- What an attempt to take an attribute back can come to. -/
theorem withdraw_cases {result : Withdrawal}
    (hrun : arena.withdraw function wanted cause = .ok (result, after)) :
    ∃ declaration, arena.get function = .ok declaration ∧
      ((result = .violated (.attributeViolation function wanted cause) ∧ after = arena ∧
          declaration.promises wanted = true ∧
          ¬(wanted = .safety ∧ .trusted ∈ declaration.storage)) ∨
        (result = .dropped ∧ declaration.isWithdrawable wanted = true ∧
          (arena.modify function fun declaration => declaration.withdraw wanted) = .ok after) ∨
        (result = .nothing ∧ after = arena ∧ (declaration.promises wanted = true →
          wanted = .safety ∧ .trusted ∈ declaration.storage))) := by
  obtain ⟨declaration, hget, hrun⟩ := bind_eq_ok_iff.mp hrun
  refine ⟨declaration, hget, ?_⟩
  cases hfunc : declaration.asFunc? with
  | none =>
    simp only [hfunc, pure_eq_ok, Except.ok.injEq, Prod.mk.injEq] at hrun
    exact .inr (.inr ⟨hrun.1.symm, hrun.2.symm, by simp [Declaration.promises, hfunc]⟩)
  | some state =>
    have hpromises : declaration.promises wanted = declaration.isWritten state wanted := by
      simp [Declaration.promises, hfunc]
    simp only [hfunc, pure_eq_ok, Bool.and_eq_true, decide_eq_true_eq, ← FlagSet.mem_iff] at hrun
    rw [hpromises, Declaration.isWithdrawable_iff hfunc]
    split at hrun
    · next htrusted =>
      cases hrun
      exact .inr (.inr ⟨rfl, rfl, fun _ => htrusted⟩)
    · next htrusted =>
      split at hrun
      · next hwritten =>
        cases hrun
        exact .inl ⟨rfl, rfl, hwritten, htrusted⟩
      · next hwritten =>
        split at hrun
        · next hinferred =>
          obtain ⟨changed, hmodify, hchanged⟩ := bind_eq_ok_iff.mp hrun
          cases hchanged
          exact .inr (.inl ⟨rfl, ⟨hinferred, htrusted⟩, hmodify⟩)
        · cases hrun
          exact .inr (.inr ⟨rfl, rfl, fun hpromised => absurd hpromised hwritten⟩)

end Arena

namespace Retreat

variable {edges rest : List CallEdge} {wanted : Attribute} {retreat looked : Retreat}

def Blames (wanted : Attribute) (edges : List CallEdge) (retreat : Retreat) : Prop :=
  ∀ error ∈ retreat.errors, ∃ edge ∈ edges,
    error = .attributeViolation edge.caller wanted (some edge.effect)

theorem Blames.lookAt {edge : CallEdge} (hblames : retreat.Blames wanted edges)
    (hedge : edge ∈ edges) (hrun : lookAt wanted retreat edge = .ok looked) :
    looked.Blames wanted edges := by
  simp only [Retreat.lookAt] at hrun
  split at hrun
  · cases hrun
    exact hblames
  · obtain ⟨⟨result, changed⟩, hwithdraw, hlooked⟩ := bind_eq_ok_iff.mp hrun
    cases result with
    | dropped | nothing =>
      cases hlooked
      exact hblames
    | violated cause =>
      cases hlooked
      obtain ⟨-, -, ⟨hcause, -⟩ | ⟨hresult, -⟩ | ⟨hresult, -⟩⟩ := Arena.withdraw_cases hwithdraw
      · rw [Withdrawal.violated.injEq] at hcause
        intro error herror
        obtain hold | hnew := List.mem_append.mp herror
        · exact hblames error hold
        · exact ⟨edge, hedge, (List.mem_singleton.mp hnew).trans hcause⟩
      · contradiction
      · contradiction

theorem Blames.run {rounds : Nat} (hblames : retreat.Blames wanted edges)
    (hrun : run wanted edges rounds retreat = .ok looked) : looked.Blames wanted edges := by
  apply run_keeps (Blames wanted edges) (fun _ => True) _ _ _ hblames hrun
  · intro _ _ _ _
    trivial
  · intro _ _ _ hwaits _
    exact hwaits
  · intro _ hblames edge hedge _ _ hlook
    exact hblames.lookAt hedge hlook

end Retreat

namespace Arena

variable {arena start after : Arena} {config : Config} {function root : DeclId}
  {wanted about : Attribute} {declaration : Declaration} {errors : List DeclError}
  {cause reported : Option Effect}

/-- What is reported about the callers of a function that lost the attribute is not about the
function itself. -/
theorem notMem_errors_of_downgradeCallers (config : Config) (hclosed : start.Closed)
    (hlost : root ∉ start.withStatus config wanted .holds)
    (hrun : start.downgradeCallers root wanted = .ok (errors, after)) :
    .attributeViolation root about reported ∉ errors := by
  obtain ⟨edges, hedges, hmem⟩ := exists_holdingEdges config wanted hclosed
  rw [downgradeCallers, hedges, ok_bind] at hrun
  obtain ⟨retreat, hretreat, hanswer⟩ := bind_eq_ok_iff.mp hrun
  cases hanswer
  have hstart : Retreat.Blames wanted edges { arena := start, waiting := [root] } := by
    simp [Retreat.Blames]
  intro herror
  obtain ⟨edge, hedge, hblamed⟩ := hstart.run hretreat _ herror
  have hcaller : root = edge.caller := (DeclError.attributeViolation.inj hblamed).1
  exact hlost (hcaller ▸ ((hmem edge).mp hedge).1)

/-- A downgrade reports the function itself when the attribute is written in its source. -/
theorem mem_errors_of_downgrade (hclosed : arena.Closed)
    (hsame : arena.aliasedFunction function = .ok function)
    (hrun : arena.downgrade config function wanted cause = .ok (errors, after)) :
    .attributeViolation function about reported ∈ errors ↔
      about = wanted ∧ reported = cause ∧ arena.Promises function wanted ∧
        ¬(wanted = .safety ∧ arena.Trusts function) := by
  rw [downgrade, hsame, ok_bind] at hrun
  obtain ⟨⟨result, changed⟩, hwithdraw, hrest⟩ := bind_eq_ok_iff.mp hrun
  obtain ⟨declaration, hget, ⟨rfl, rfl, hpromises, htrusted⟩ | ⟨rfl, hwithdrawable, hmodify⟩ |
    ⟨rfl, rfl, htrusted⟩⟩ := withdraw_cases hwithdraw
  · cases hrest
    simp [promises_iff_of_get hget, trusts_iff_of_get hget, hpromises, htrusted]
  · obtain ⟨-, hwithdrawn⟩ := Withdrawn.refl.tail hget hwithdrawable hmodify
    have hlost : function ∉ changed.withStatus config wanted .holds := by
      rw [hwithdrawn.mem_holds_iff]
      simp
    have hnone : .attributeViolation function about reported ∉ errors :=
      notMem_errors_of_downgradeCallers config (hwithdrawn.closed hclosed) hlost hrest
    have hbroken : declaration.promises wanted ≠ true := by
      intro hpromises
      rw [Declaration.not_isWithdrawable_of_promises hpromises] at hwithdrawable
      contradiction
    simp [hnone, promises_iff_of_get hget, hbroken]
  · obtain ⟨refused, -, hanswer⟩ := bind_eq_ok_iff.mp hrest
    cases hanswer
    rw [promises_iff_of_get hget, trusts_iff_of_get hget]
    simp only [List.not_mem_nil, false_iff]
    rintro ⟨-, -, hpromises, hnot⟩
    exact hnot (htrusted hpromises)

end Arena

namespace Session

open Arena

variable {session after : Session} {config : Config} {function target : DeclId}
  {wanted about : Attribute} {declaration : Declaration} {effect : Effect}
  {errors : List DeclError} {attributes : List Attribute}

/-! ## The check of a late effect -/

/-- The check of one attribute reports the function when the attribute is written in its source and
the effect breaks it. -/
theorem mem_errors_of_checkNewEffect (wanted : Attribute) (hidle : session.Idle)
    (hfunction : function.number < session.arena.size)
    (hsame : session.arena.aliasedFunction function = .ok function)
    (heffect : ∀ handle ∈ effect.handles, handle.number < session.arena.size)
    (hrun : session.checkNewEffect config function effect about = .ok (errors, after)) :
    .attributeViolation function wanted (some effect) ∈ errors ↔
      wanted = about ∧ session.arena.BreaksPromise config function effect about ∧
        ¬(about = .safety ∧ session.arena.Trusts function) := by
  obtain ⟨declaration, hget⟩ := exists_get hfunction
  rw [checkNewEffect, hget, ok_bind] at hrun
  split at hrun
  · next hstatus =>
    cases hrun
    have hnone : ¬session.arena.Promises function about := by
      rw [promises_iff_of_get hget]
      exact fun hpromises => hstatus (Declaration.status_of_promises config hpromises)
    simp [BreaksPromise, hnone]
  · obtain ⟨broken, middle, hbreaks, hanswered⟩ := breaks_answered config about hidle heffect
    have hallows : broken = false ↔
        session.arena.Allows about (session.arena.entitled config about) effect := by
      rw [← hanswered.holds_iff fun hsubset hallows => hallows.mono hsubset]
      simp
    have hevolves := hanswered.learns.grows.evolves
    rw [hbreaks, ok_bind] at hrun
    cases broken with
    | false =>
      cases hrun
      simp [BreaksPromise, hallows.mp]
    | true =>
      obtain ⟨⟨found, arena⟩, hdowngrade, hanswer⟩ := bind_eq_ok_iff.mp hrun
      cases hanswer
      rw [← hevolves.aliasedFunction_eq] at hsame
      rw [mem_errors_of_downgrade hanswered.idle.closed hsame hdowngrade, hevolves.promises_iff,
        hevolves.trusts_iff, BreaksPromise, ← hallows]
      simp

/-- The check of one attribute changes for no written attribute which functions have it. -/
theorem Checked.entitled_eq (hpromises : session.arena.Promises function wanted)
    (hchecked : Checked config function function effect about session after) :
    after.arena.entitled config wanted = session.arena.entitled config wanted := by
  by_cases habout : about = wanted
  · subst habout
    cases hchecked with
    | unneeded => rfl
    | fine _ answered => exact answered.learns.entitled_eq about
    | @broken middle errors arena holds answered downgraded =>
      rw [← answered.learns.entitled_eq about]
      obtain ⟨declaration, hget, hwritten⟩ :=
        (answered.learns.grows.evolves.promises_iff).mpr hpromises
      cases downgraded with
      | dropped retreats =>
        obtain ⟨found, hfound, hwithdrawable⟩ :=
          retreats.withdrawn.withdrawable function retreats.root_mem
        obtain rfl : declaration = found := Except.ok.inj (hget.symm.trans hfound)
        rw [Declaration.not_isWithdrawable_of_promises hwritten] at hwithdrawable
        contradiction
      | refused undecided =>
        have hstatus := (mem_withStatus_iff_of_get hget config about .undecided).mp undecided
        rw [Declaration.status_of_promises config hwritten] at hstatus
        contradiction
      | violated | settled | trusted => rfl
  · have hkept : wanted ∈ ({wanted} : Attributes) := by simp
    have hnot : about ∉ ({wanted} : Attributes) := by simpa using habout
    rw [← entitled_keep hkept, hchecked.keep_eq hnot, entitled_keep hkept]

/-- The check of all attributes does not either. -/
theorem CheckedEach.entitled_eq (hpromises : session.arena.Promises function wanted)
    (hchecked : CheckedEach config function function effect attributes session after) :
    after.arena.entitled config wanted = session.arena.entitled config wanted := by
  induction hchecked with
  | nil => rfl
  | cons checked _ ih =>
    rw [ih (checked.evolves.promises_iff.mpr hpromises), checked.entitled_eq hpromises]

theorem CheckedEach.outline_eq
    (hchecked : CheckedEach config function target effect attributes session after) :
    after.arena.keep ∅ = session.arena.keep ∅ := by
  induction hchecked with
  | nil => rfl
  | cons checked _ ih => exact ih.trans checked.outline_eq

theorem CheckedEach.breaksPromise_iff
    (hchecked : CheckedEach config function function effect attributes session after) :
    after.arena.BreaksPromise config function effect wanted ↔
      session.arena.BreaksPromise config function effect wanted := by
  rw [BreaksPromise, BreaksPromise, hchecked.evolves.promises_iff, hchecked.evolves.allows_iff]
  refine and_congr_right fun hpromises => ?_
  rw [hchecked.entitled_eq hpromises]

/-- The check of each attribute of a list reports the function for those that are written in its
source and that the effect breaks. -/
theorem exists_checkNewEffectAgainst (config : Config) (hnodup : attributes.Nodup)
    (hidle : session.Idle) (hfunction : function.number < session.arena.size)
    (hsame : session.arena.aliasedFunction function = .ok function)
    (heffect : ∀ handle ∈ effect.handles, handle.number < session.arena.size) :
    ∃ errors after,
      checkNewEffectAgainst config function effect session attributes = .ok (errors, after) ∧
      CheckedEach config function function effect attributes session after ∧ after.Idle ∧
      ∀ wanted, .attributeViolation function wanted (some effect) ∈ errors ↔
        wanted ∈ attributes ∧ session.arena.BreaksPromise config function effect wanted ∧
          ¬(wanted = .safety ∧ session.arena.Trusts function) := by
  induction attributes generalizing session with
  | nil => exact ⟨[], session, rfl, .nil, hidle, by simp⟩
  | cons about attributes ih =>
    obtain ⟨hnew, hnodup⟩ := List.nodup_cons.mp hnodup
    obtain ⟨errors, middle, hcheck, hchecked⟩ :=
      exists_checked config about hidle hfunction hsame heffect
    have hevolves := hchecked.evolves
    have hfirst := fun wanted =>
      mem_errors_of_checkNewEffect wanted hidle hfunction hsame heffect hcheck
    rw [← hevolves.size_eq] at hfunction heffect
    rw [← hevolves.aliasedFunction_eq] at hsame
    obtain ⟨later, after, hrest, heach, hafter, hlater⟩ :=
      ih hnodup (hchecked.idle hidle) hfunction hsame heffect
    refine ⟨errors ++ later, after, by simp [checkNewEffectAgainst, hcheck, hrest],
      .cons hchecked heach, hafter, fun wanted => ?_⟩
    rw [List.mem_append, hfirst, hlater,
      (CheckedEach.cons hchecked .nil).breaksPromise_iff, hevolves.trusts_iff, List.mem_cons]
    by_cases hwanted : wanted = about
    · subst hwanted
      simp [hnew]
    · simp [hwanted]

/-- A late effect is reported for an attribute of its function exactly when a check of the whole
body in the arena that the report leaves finds it too: when the attribute is written in the source,
and the effect breaks it. -/
theorem recordEffect_verify_agree (config : Config) {arena : Arena} (hclosed : arena.Closed)
    (hget : arena.get function = .ok declaration)
    (halias : declaration.aliasedFunction? = none) (hlevel : declaration.HasOneSafetyLevel)
    (heffect : ∀ handle ∈ effect.handles, handle.number < arena.size) :
    ∃ errors session found after,
      recordEffect config { arena } function effect = .ok (errors, session) ∧
      session.verify config function = .ok (found, after) ∧
      ∀ wanted,
        (.attributeViolation function wanted (some effect) ∈ errors ↔
          .attributeViolation function wanted (some effect) ∈ found) ∧
        (.attributeViolation function wanted (some effect) ∈ found ↔
          session.arena.BreaksPromise config function effect wanted) := by
  have hbound := lt_of_get hget
  have hsame := aliasedFunction_of_eq_none hget halias
  have hidle : Session.Idle { arena } := ⟨rfl, hclosed⟩
  cases hfunction : declaration.isFunction with
  | false =>
    obtain ⟨found, after, hverify, hfound⟩ := exists_verify_iff config hidle hbound
    refine ⟨[], { arena }, found, after, ?_, hverify, fun wanted => ?_⟩
    · simp [recordEffect, hsame, hget, hfunction]
    have hnone : ¬arena.BreaksPromise config function effect wanted := by
      rw [BreaksPromise, promises_iff_of_get hget, Declaration.promises_iff, hfunction]
      simp
    simp [hfound, hnone]
  | true =>
    obtain ⟨added, hadd, haddedClosed⟩ := exists_addEffect hclosed hbound heffect
    have hgrown : Evolves config arena added := evolves_of_addEffect hadd
    have hadded : Session.Idle { arena := added } := ⟨rfl, haddedClosed⟩
    obtain ⟨errors, session, hrun, hchecked, hsession, herrors⟩ :=
      exists_checkNewEffectAgainst config Flag.nodup_all hadded
        (by rwa [hgrown.size_eq] : function.number < added.size)
        (by rw [hgrown.aliasedFunction_eq, hsame]) (by rwa [hgrown.size_eq])
    obtain ⟨found, after, hverify, hfound⟩ := exists_verify_iff config hsession
      (by rwa [hchecked.evolves.size_eq, hgrown.size_eq] : function.number < session.arena.size)
    refine ⟨errors, session, found, after, ?_, hverify, fun wanted => ?_⟩
    · simp [recordEffect, hsame, hget, hfunction, hadd, hrun]
    have hmem : effect ∈ session.arena.effectsOf function := by
      rw [effectsOf_congr hchecked.outline_eq]
      exact mem_effectsOf_addEffect hadd hget hfunction
    have htrusted : added.BreaksPromise config function effect wanted →
        ¬(wanted = .safety ∧ added.Trusts function) := by
      rintro ⟨hpromises, -⟩ ⟨rfl, htrusts⟩
      have hsafe : arena.Promises function .safety := hgrown.promises_iff.mp hpromises
      exact hsafe.not_trusts hget hlevel (hgrown.trusts_iff.mp htrusts)
    rw [herrors, hfound, hchecked.breaksPromise_iff]
    simp only [Flag.mem_all, hmem, true_and, and_true]
    exact and_iff_left_of_imp htrusted

/-- A function in the source of which it is written that it does not throw. -/
def promisingFunction : Declaration :=
  { Declaration.ofBody [] with storage := {.nothrow, .inference} }

theorem recordEffect_verify_agree_promisingFunction :
    Arena.Closed { declarations := #[promisingFunction] } ∧
    promisingFunction.HasOneSafetyLevel ∧
    ∃ errors session found after,
      recordEffect {} { arena := { declarations := #[promisingFunction] } } ⟨0⟩
        (.throwing .synthetic) = .ok (errors, session) ∧
      session.verify {} ⟨0⟩ = .ok (found, after) ∧
      ∀ wanted,
        (.attributeViolation ⟨0⟩ wanted (some (.throwing .synthetic)) ∈ errors ↔
          .attributeViolation ⟨0⟩ wanted (some (.throwing .synthetic)) ∈ found) ∧
        (.attributeViolation ⟨0⟩ wanted (some (.throwing .synthetic)) ∈ found ↔
          session.arena.BreaksPromise {} ⟨0⟩ (.throwing .synthetic) wanted) := by
  have hclosed : Arena.Closed { declarations := #[promisingFunction] } := by decide
  have hlevel : promisingFunction.HasOneSafetyLevel := by decide
  exact ⟨hclosed, hlevel, recordEffect_verify_agree {} hclosed rfl rfl hlevel (by decide)⟩

end Session

end Declarations
