import Declarations.Proofs.Inference.Settlement

/-!
# Taking an attribute from a function

An attribute that was inferred can be taken back, unless it is the safety of a trusted function.  A
function that loses an attribute keeps the record that the attribute was settled, so it can never
get the attribute again.
-/

namespace Declarations

namespace Declaration

/-- Whether an attribute was inferred and can be taken back. -/
def isWithdrawable (declaration : Declaration) (wanted : Attribute) : Bool :=
  declaration.asFunc?.any (fun state => state.inferred.contains wanted) &&
    !(wanted = .safety && declaration.storage.contains .trusted)

variable {declaration : Declaration} {state : Func} {wanted : Attribute}

theorem isWithdrawable_iff (hfunc : declaration.asFunc? = some state) :
    declaration.isWithdrawable wanted = true ↔
      wanted ∈ state.inferred ∧ ¬(wanted = .safety ∧ .trusted ∈ declaration.storage) := by
  simp [isWithdrawable, hfunc, FlagSet.mem_iff, imp_iff_not_or]

theorem exists_of_isWithdrawable (hwithdrawable : declaration.isWithdrawable wanted = true) :
    ∃ state, declaration.asFunc? = some state ∧ wanted ∈ state.inferred ∧
      ¬(wanted = .safety ∧ .trusted ∈ declaration.storage) := by
  cases hfunc : declaration.asFunc? with
  | none => simp [isWithdrawable, hfunc] at hwithdrawable
  | some state => exact ⟨state, rfl, (isWithdrawable_iff hfunc).mp hwithdrawable⟩

/-- The safety of a trusted function cannot be taken back. -/
theorem isWithdrawable_of_trusted (hsafety : wanted = .safety)
    (htrusted : .trusted ∈ declaration.storage) : declaration.isWithdrawable wanted = false := by
  rw [← Bool.not_eq_true]
  intro hwithdrawable
  obtain ⟨state, -, -, hnot⟩ := exists_of_isWithdrawable hwithdrawable
  exact hnot ⟨hsafety, htrusted⟩

/-- What was taken back does not hold any more. -/
theorem holdsIn_withdraw (hwithdrawable : declaration.isWithdrawable wanted = true) :
    wanted.holdsIn (declaration.withdraw wanted).storage = false := by
  obtain ⟨state, hfunc, -, htrusted⟩ := exists_of_isWithdrawable hwithdrawable
  rw [← Bool.not_eq_true, Attribute.holdsIn_iff, withdraw_of_asFunc? hfunc]
  simp only [FlagSet.mem_sdiff, FlagSet.mem_singleton, not_true, and_false, false_or]
  rintro ⟨hsafety, hmem, -⟩
  exact htrusted ⟨hsafety, hmem⟩

/-- What was taken back cannot be taken back again. -/
theorem isWithdrawable_withdraw (hfunc : declaration.asFunc? = some state) :
    (declaration.withdraw wanted).isWithdrawable wanted = false := by
  rw [← Bool.not_eq_true, isWithdrawable_iff (asFunc?_withdraw hfunc)]
  simp

/-- Whether an attribute can be taken back depends on the record of it alone. -/
theorem isWithdrawable_keep {kept : Attributes} (hwanted : wanted ∈ kept) :
    (declaration.keep kept).isWithdrawable wanted = declaration.isWithdrawable wanted := by
  cases hfunc : declaration.asFunc? with
  | none => rw [keep_of_asFunc?_eq_none hfunc]
  | some state =>
    have hkept : (declaration.keep kept).asFunc? = some (state.keep kept) := by
      rw [asFunc?_keep, hfunc, Option.map_some]
    have htrusted : StorageFlag.trusted ∈ (declaration.keep kept).storage ↔
        .trusted ∈ declaration.storage :=
      mem_storage_keep (by intro guarantee; cases guarantee <;> simp [Attribute.flag])
    rw [Bool.eq_iff_iff, isWithdrawable_iff hkept, isWithdrawable_iff hfunc, htrusted]
    simp [Func.keep, hwanted]

theorem isWithdrawable_mapFunc {change : Func → Func}
    (hinferred : ∀ state, (change state).inferred = state.inferred) :
    (declaration.mapFunc change).isWithdrawable wanted = declaration.isWithdrawable wanted := by
  simp only [isWithdrawable, asFunc?_mapFunc, storage_mapFunc, Option.any_map]
  congr 2
  funext state
  simp [hinferred]

/-- What was just inferred can be taken back. -/
theorem isWithdrawable_conclude_true {config : Config}
    (hstatus : declaration.status config wanted = .undecided) :
    (declaration.conclude wanted true).isWithdrawable wanted = true := by
  obtain ⟨state, hfunc, hholds, -⟩ := exists_of_status_undecided hstatus
  rw [isWithdrawable_iff (asFunc?_conclude hfunc true), conclude_of_asFunc? hfunc]
  refine ⟨by simp, ?_⟩
  rintro ⟨hsafety, htrusted⟩
  rw [← Bool.not_eq_true, Attribute.holdsIn_iff] at hholds
  exact hholds (.inr ⟨hsafety, by simpa [Attribute.flag, hsafety] using htrusted⟩)

/-- What is denied is not inferred. -/
theorem isWithdrawable_conclude_false :
    (declaration.conclude wanted false).isWithdrawable wanted =
      declaration.isWithdrawable wanted := by
  cases hfunc : declaration.asFunc? with
  | none => simp [conclude, hfunc]
  | some state =>
    rw [Bool.eq_iff_iff, isWithdrawable_iff (asFunc?_conclude hfunc false),
      isWithdrawable_iff hfunc, conclude_of_asFunc? hfunc]
    simp

/-- The attribute is recorded as settled if it was inferred. -/
def Remembers (wanted : Attribute) (declaration : Declaration) : Prop :=
  ∀ state, declaration.asFunc? = some state → wanted ∈ state.inferred → wanted ∈ state.concluded

theorem remembers_conclude (declaration : Declaration) (wanted : Attribute) (holds : Bool) :
    (declaration.conclude wanted holds).Remembers wanted := by
  intro state hstate _
  cases hfunc : declaration.asFunc? with
  | none => simp [conclude, hfunc] at hstate
  | some earlier =>
    rw [asFunc?_conclude hfunc, Option.some.injEq] at hstate
    simp [← hstate]

theorem remembers_withdraw (hfunc : declaration.asFunc? = some state) :
    (declaration.withdraw wanted).Remembers wanted := by
  intro changed hchanged hinferred
  rw [asFunc?_withdraw hfunc, Option.some.injEq] at hchanged
  simp [← hchanged] at hinferred

theorem remembers_keep {kept : Attributes} (hwanted : wanted ∈ kept) :
    (declaration.keep kept).Remembers wanted ↔ declaration.Remembers wanted := by
  unfold Remembers
  rw [asFunc?_keep]
  cases declaration.asFunc? <;> simp [Func.keep, hwanted]

theorem Remembers.mapFunc {change : Func → Func} (hremembers : declaration.Remembers wanted)
    (hinferred : ∀ state, (change state).inferred = state.inferred)
    (hconcluded : ∀ state, (change state).concluded = state.concluded) :
    (declaration.mapFunc change).Remembers wanted := by
  intro changed hchanged
  rw [asFunc?_mapFunc, Option.map_eq_some_iff] at hchanged
  obtain ⟨state, hstate, rfl⟩ := hchanged
  rw [hinferred, hconcluded]
  exact hremembers state hstate

/-- What was taken back is denied for good. -/
theorem status_withdraw {config : Config} (hremembers : declaration.Remembers wanted)
    (hwithdrawable : declaration.isWithdrawable wanted = true) :
    (declaration.withdraw wanted).status config wanted = .fails := by
  obtain ⟨state, hfunc, hinferred, -⟩ := exists_of_isWithdrawable hwithdrawable
  have hconcluded := hremembers state hfunc hinferred
  rw [FlagSet.mem_iff] at hconcluded
  simp [status, asFunc?_withdraw hfunc, holdsIn_withdraw hwithdrawable, hconcluded]

/-- A function is known to have an attribute when its storage class gives it. -/
theorem status_eq_holds_iff {config : Config} :
    declaration.status config wanted = .holds ↔
      declaration.isFunction = true ∧ wanted.holdsIn declaration.storage = true := by
  unfold status isFunction
  cases declaration.asFunc? with
  | none => simp
  | some state =>
    simp only [Option.isSome_some, true_and]
    split
    · simp [*]
    · split
      · simp [*]
      · split <;> simp [*]

end Declaration

namespace Arena

variable {arena before middle after : Arena} {id : DeclId} {declaration : Declaration}
variable {wanted : Attribute} {config : Config} {dropped : List DeclId}

/-! ## One function -/

/-- What can be taken back is dropped. -/
theorem exists_withdraw (hget : arena.get id = .ok declaration)
    (hwithdrawable : declaration.isWithdrawable wanted = true) (cause : Option Effect) :
    ∃ changed, arena.withdraw id wanted cause = .ok (.dropped, changed) ∧
      (arena.modify id fun declaration => declaration.withdraw wanted) = .ok changed := by
  obtain ⟨state, hfunc, hinferred, htrusted⟩ :=
    Declaration.exists_of_isWithdrawable hwithdrawable
  obtain ⟨changed, hchanged⟩ : ∃ changed,
      (arena.modify id fun declaration => declaration.withdraw wanted) = .ok changed := by
    simp [modify, lt_of_get hget]
  refine ⟨changed, ?_, hchanged⟩
  simp only [FlagSet.mem_iff] at hinferred htrusted
  simp [withdraw, hget, hfunc, htrusted, hinferred, Declaration.isWritten, hchanged]

/-- Otherwise the arena stays as it is.  An attribute that holds is written in the source then, or
it is the safety of a trusted function. -/
theorem withdraw_of_not_isWithdrawable (hget : arena.get id = .ok declaration)
    (hwithdrawable : declaration.isWithdrawable wanted = false) (cause : Option Effect) :
    arena.withdraw id wanted cause = .ok (.nothing, arena) ∧
        (wanted.holdsIn declaration.storage = true → declaration.isFunction = true →
          wanted = .safety ∧ .trusted ∈ declaration.storage) ∨
      arena.withdraw id wanted cause =
          .ok (.violated (.attributeViolation id wanted cause), arena) ∧
        wanted.holdsIn declaration.storage = true ∧ declaration.isFunction = true := by
  cases hfunc : declaration.asFunc? with
  | none => exact .inl ⟨by simp [withdraw, hget, hfunc], by simp [Declaration.isFunction, hfunc]⟩
  | some state =>
    rw [← Bool.not_eq_true, Declaration.isWithdrawable_iff hfunc, Classical.not_and_iff_not_or_not,
      Classical.not_not] at hwithdrawable
    by_cases htrusted : wanted = .safety ∧ .trusted ∈ declaration.storage
    · refine .inl ⟨?_, fun _ _ => htrusted⟩
      simp only [FlagSet.mem_iff] at htrusted
      simp [withdraw, hget, hfunc, htrusted]
    · have hinferred : wanted ∉ state.inferred := hwithdrawable.resolve_right htrusted
      by_cases hcarries : wanted.flag ∈ declaration.storage
      · refine .inr ⟨?_, Attribute.holdsIn_iff.mpr (.inl hcarries), by
          simp [Declaration.isFunction, hfunc]⟩
        simp only [FlagSet.mem_iff] at htrusted hinferred hcarries
        simp [withdraw, hget, hfunc, htrusted, hinferred, Declaration.isWritten,
          Declaration.carries, hcarries]
      · refine .inl ⟨?_, fun hholds _ => ?_⟩
        · simp only [FlagSet.mem_iff] at htrusted hinferred hcarries
          simp [withdraw, hget, hfunc, htrusted, hinferred, Declaration.isWritten,
            Declaration.carries, hcarries]
        · exact (Attribute.holdsIn_iff.mp hholds).resolve_left hcarries

/-! ## Several functions -/

/-- The attribute was taken from the given functions, and nothing else has changed. -/
structure Withdrawn (wanted : Attribute) (dropped : List DeclId) (before after : Arena) : Prop where
  withdrawable : ∀ id ∈ dropped, ∃ declaration, before.get id = .ok declaration ∧
    declaration.isWithdrawable wanted = true
  get_eq : ∀ id, after.get id =
    if id ∈ dropped then (before.get id).map fun declaration => declaration.withdraw wanted
    else before.get id
  keep_eq : ∀ kept : Attributes, wanted ∉ kept → after.keep kept = before.keep kept

namespace Withdrawn

theorem refl : Withdrawn wanted [] arena arena where
  withdrawable := by simp
  get_eq := by simp
  keep_eq := by simp

/-- A function that lost the attribute has nothing left that could be taken back. -/
theorem notMem_of_isWithdrawable (hwithdrawn : Withdrawn wanted dropped before after)
    (hget : after.get id = .ok declaration)
    (hwithdrawable : declaration.isWithdrawable wanted = true) : id ∉ dropped := by
  intro hmem
  obtain ⟨earlier, hearlier, hinferred⟩ := hwithdrawn.withdrawable id hmem
  obtain ⟨state, hfunc, -⟩ := Declaration.exists_of_isWithdrawable hinferred
  rw [hwithdrawn.get_eq, if_pos hmem, hearlier, ok_map, Except.ok.injEq] at hget
  rw [← hget, Declaration.isWithdrawable_withdraw hfunc] at hwithdrawable
  contradiction

/-- One more function loses the attribute. -/
theorem tail (hwithdrawn : Withdrawn wanted dropped before middle)
    (hget : middle.get id = .ok declaration)
    (hwithdrawable : declaration.isWithdrawable wanted = true)
    (hmodify : (middle.modify id fun declaration => declaration.withdraw wanted) = .ok after) :
    id ∉ dropped ∧ Withdrawn wanted (id :: dropped) before after := by
  have hnew : id ∉ dropped := hwithdrawn.notMem_of_isWithdrawable hget hwithdrawable
  have hbefore : before.get id = .ok declaration := by
    rwa [hwithdrawn.get_eq, if_neg hnew] at hget
  obtain ⟨state, hfunc, -⟩ := Declaration.exists_of_isWithdrawable hwithdrawable
  refine ⟨hnew, ?_, ?_, ?_⟩
  · intro other hother
    obtain rfl | hother := List.mem_cons.mp hother
    · exact ⟨declaration, hbefore, hwithdrawable⟩
    · exact hwithdrawn.withdrawable other hother
  · intro other
    rw [get_of_modify hmodify, hwithdrawn.get_eq]
    by_cases hother : other = id
    · subst other
      simp [hnew]
    · simp [hother]
  · intro kept hkept
    rw [keep_eq_of_modify hget (Declaration.keep_withdraw hfunc hkept) hmodify,
      hwithdrawn.keep_eq kept hkept]

theorem outline_eq (hwithdrawn : Withdrawn wanted dropped before after) :
    after.keep ∅ = before.keep ∅ :=
  hwithdrawn.keep_eq ∅ (FlagSet.not_mem_empty wanted)

theorem size_eq (hwithdrawn : Withdrawn wanted dropped before after) :
    after.size = before.size :=
  size_of_keep_eq hwithdrawn.outline_eq

theorem closed (hwithdrawn : Withdrawn wanted dropped before after) (hclosed : before.Closed) :
    after.Closed :=
  closed_of_keep_eq hwithdrawn.outline_eq hclosed

theorem mem_withStatus_iff (hwithdrawn : Withdrawn wanted dropped before after)
    (hkept : id ∉ dropped) (status : Status) :
    id ∈ after.withStatus config wanted status ↔ id ∈ before.withStatus config wanted status := by
  simp only [withStatus, Set.mem_ofPred_eq, hwithdrawn.get_eq, if_neg hkept]

theorem mem_fails (hwithdrawn : Withdrawn wanted dropped before after)
    (hremembers : ∀ declaration, before.get id = .ok declaration → declaration.Remembers wanted)
    (hmem : id ∈ dropped) : id ∈ after.withStatus config wanted .fails := by
  obtain ⟨declaration, hget, hwithdrawable⟩ := hwithdrawn.withdrawable id hmem
  refine ⟨declaration.withdraw wanted, ?_,
    Declaration.status_withdraw (hremembers declaration hget) hwithdrawable⟩
  rw [hwithdrawn.get_eq, if_pos hmem, hget, ok_map]

/-- What is taken back stays settled. -/
theorem remembers (hwithdrawn : Withdrawn wanted dropped before after)
    (hremembers : ∀ declaration, before.get id = .ok declaration → declaration.Remembers wanted)
    (hget : after.get id = .ok declaration) : declaration.Remembers wanted := by
  by_cases hid : id ∈ dropped
  · obtain ⟨earlier, hearlier, hwithdrawable⟩ := hwithdrawn.withdrawable id hid
    obtain ⟨state, hfunc, -⟩ := Declaration.exists_of_isWithdrawable hwithdrawable
    rw [hwithdrawn.get_eq, if_pos hid, hearlier, ok_map, Except.ok.injEq] at hget
    rw [← hget]
    exact Declaration.remembers_withdraw hfunc
  · rw [hwithdrawn.get_eq, if_neg hid] at hget
    exact hremembers declaration hget

/-- The attribute goes on to hold for the functions from which it was not taken. -/
theorem mem_holds_iff (hwithdrawn : Withdrawn wanted dropped before after) :
    id ∈ after.withStatus config wanted .holds ↔
      id ∉ dropped ∧ id ∈ before.withStatus config wanted .holds := by
  by_cases hmem : id ∈ dropped
  · obtain ⟨declaration, hget, hwithdrawable⟩ := hwithdrawn.withdrawable id hmem
    have hafter : after.get id = .ok (declaration.withdraw wanted) := by
      rw [hwithdrawn.get_eq, if_pos hmem, hget, ok_map]
    simp [hmem, mem_withStatus_iff_of_get hafter, Declaration.status_eq_holds_iff,
      Declaration.holdsIn_withdraw hwithdrawable]
  · simp [hmem, hwithdrawn.mem_withStatus_iff hmem]

end Withdrawn

end Arena

end Declarations
