import Declarations.Proofs.Inference.Record
import Mathlib.Order.FixedPoints
import Mathlib.Logic.Relation
import Mathlib.Order.CompletePartialOrder

/-!
# Which functions have an attribute

Functions that call each other can only have an attribute together, so what inference should answer
is a greatest fixed point: the largest set of undecided functions in which every body is fine as
long as the other members have the attribute.  This file states that set for an arena.  It is used
in two ways: a set that supports itself is contained in it, and every member of it is supported by
it.
-/

namespace Declarations.Arena

variable (arena : Arena) (config : Config) (wanted : Attribute)

def withStatus (status : Status) : Set DeclId :=
  {id | ∃ declaration, arena.get id = .ok declaration ∧
    declaration.status config wanted = status}

def effectsOf (id : DeclId) : List Effect :=
  match arena.get id with
  | .ok declaration => (declaration.asFunc?.map Func.effects).getD []
  | .error _ => []

/-- An effect is fine if it does not break the attribute, where a call counts as fine if the
function that is really called is one of `relied`. -/
def Allows (relied : Set DeclId) (effect : Effect) : Prop :=
  match effect.callee? with
  | some callee => ∃ function ∈ relied, arena.aliasedFunction callee = .ok function
  | none => arena.breaksDirectly wanted effect = .ok false

/-- Every effect of the body is fine. -/
def Supports (relied : Set DeclId) (id : DeclId) : Prop :=
  ∀ effect ∈ arena.effectsOf id, arena.Allows wanted relied effect

variable {arena wanted} in
theorem Allows.mono {smaller larger : Set DeclId} (hsubset : smaller ⊆ larger) {effect : Effect}
    (hallows : arena.Allows wanted smaller effect) : arena.Allows wanted larger effect := by
  unfold Allows at *
  split
  · next callee hcallee =>
    simp only [hcallee] at hallows
    obtain ⟨function, hfunction, halias⟩ := hallows
    exact ⟨function, hsubset hfunction, halias⟩
  · next hcallee => simpa only [hcallee] using hallows

variable {arena wanted} in
theorem Supports.mono {smaller larger : Set DeclId} (hsubset : smaller ⊆ larger) {id : DeclId}
    (hsupports : arena.Supports wanted smaller id) : arena.Supports wanted larger id :=
  fun effect heffect => (hsupports effect heffect).mono hsubset

/-- The undecided functions whose bodies are fine if the given functions have the attribute besides
those that are known to have it. -/
def supported : Set DeclId →o Set DeclId where
  toFun members :=
    {id ∈ arena.withStatus config wanted .undecided |
      arena.Supports wanted (arena.withStatus config wanted .holds ∪ members) id}
  monotone' _ _ hsubset _ hid :=
    ⟨hid.1, hid.2.mono (Set.union_subset_union_right _ hsubset)⟩

/-- The largest set of undecided functions that are supported by each other. -/
def selfSupporting : Set DeclId :=
  (arena.supported config wanted).gfp

/-- The functions that have the attribute: those that are known to have it and those that support
each other. -/
def entitled : Set DeclId :=
  arena.withStatus config wanted .holds ∪ arena.selfSupporting config wanted

variable {arena config wanted} {id : DeclId}

theorem withStatus_eq_of_mem {first second : Status}
    (hfirst : id ∈ arena.withStatus config wanted first)
    (hsecond : id ∈ arena.withStatus config wanted second) : first = second := by
  obtain ⟨declaration, hget, rfl⟩ := hfirst
  obtain ⟨other, hother, rfl⟩ := hsecond
  rw [hget] at hother
  rw [Except.ok.inj hother]

/-- A declaration with one status has no other one. -/
theorem notMem_withStatus {known status : Status}
    (hmem : id ∈ arena.withStatus config wanted known) (hne : status ≠ known := by decide) :
    id ∉ arena.withStatus config wanted status :=
  fun hother => hne (withStatus_eq_of_mem hother hmem)

/-- Two arenas that know the same about a declaration agree on its status. -/
theorem withStatus_iff_of_mem {left right : Arena} {known : Status}
    (hleft : id ∈ left.withStatus config wanted known)
    (hright : id ∈ right.withStatus config wanted known) (status : Status) :
    id ∈ left.withStatus config wanted status ↔ id ∈ right.withStatus config wanted status := by
  constructor
  · intro hstatus
    rwa [withStatus_eq_of_mem hstatus hleft]
  · intro hstatus
    rwa [withStatus_eq_of_mem hstatus hright]

theorem lt_of_mem_withStatus {status : Status}
    (hid : id ∈ arena.withStatus config wanted status) : id.number < arena.size := by
  obtain ⟨declaration, hget, -⟩ := hid
  exact lt_of_get hget

theorem mem_withStatus_iff_of_get {declaration : Declaration}
    (hget : arena.get id = .ok declaration) (config : Config) (wanted : Attribute)
    (status : Status) :
    id ∈ arena.withStatus config wanted status ↔ declaration.status config wanted = status := by
  constructor
  · rintro ⟨other, hother, rfl⟩
    rw [Except.ok.inj (hget.symm.trans hother)]
  · intro hstatus
    exact ⟨declaration, hget, hstatus⟩

theorem effectsOf_of_get {declaration : Declaration} {state : Func}
    (hget : arena.get id = .ok declaration) (hfunc : declaration.asFunc? = some state) :
    arena.effectsOf id = state.effects := by
  simp [effectsOf, hget, hfunc]

/-- The handles of the effects of a body lead to declarations of a closed arena. -/
theorem Closed.lt_of_mem_effectsOf (hclosed : arena.Closed) {effect : Effect}
    (heffect : effect ∈ arena.effectsOf id) {handle : DeclId} (hhandle : handle ∈ effect.handles) :
    handle.number < arena.size := by
  cases hget : arena.get id with
  | error fault => simp [effectsOf, hget] at heffect
  | ok declaration =>
    cases hfunc : declaration.asFunc? with
    | none => simp [effectsOf, hget, hfunc] at heffect
    | some state =>
      rw [effectsOf_of_get hget hfunc] at heffect
      exact hclosed.lt_of_mem_handles hget (mem_handles_of_effect hfunc heffect hhandle)

/-- The largest self-supporting set is one of them and contains all of them. -/
theorem isGreatest_selfSupporting :
    IsGreatest {members | members ⊆ arena.supported config wanted members}
      (arena.selfSupporting config wanted) :=
  OrderHom.isGreatest_gfp_le _

/-- To show that functions have an attribute it is enough that each of them is known to have it or
is undecided with a body that is fine if all of them have it. -/
theorem subset_entitled {members : Set DeclId}
    (hmembers : ∀ id ∈ members, id ∈ arena.withStatus config wanted .holds ∨
      id ∈ arena.withStatus config wanted .undecided ∧ arena.Supports wanted members id) :
    members ⊆ arena.entitled config wanted := by
  have hopen : members \ arena.withStatus config wanted .holds ⊆
      arena.selfSupporting config wanted := by
    apply isGreatest_selfSupporting.2
    rintro id ⟨hid, hnot⟩
    obtain ⟨hundecided, hsupports⟩ := (hmembers id hid).resolve_left hnot
    refine ⟨hundecided, hsupports.mono ?_⟩
    rw [Set.union_sdiff_self]
    exact Set.subset_union_right
  intro id hid
  by_cases hholds : id ∈ arena.withStatus config wanted .holds
  · exact .inl hholds
  · exact .inr (hopen ⟨hid, hholds⟩)

/-- A function that has an attribute is known to have it, or is undecided with a body that is fine
because the others have it. -/
theorem entitled_cases (hid : id ∈ arena.entitled config wanted) :
    id ∈ arena.withStatus config wanted .holds ∨
      id ∈ arena.withStatus config wanted .undecided ∧
        arena.Supports wanted (arena.entitled config wanted) id := by
  obtain hholds | hself := hid
  · exact .inl hholds
  · exact .inr (isGreatest_selfSupporting.1 hself)

theorem supports_of_entitled (hid : id ∈ arena.entitled config wanted)
    (hundecided : id ∈ arena.withStatus config wanted .undecided) :
    arena.Supports wanted (arena.entitled config wanted) id := by
  obtain hholds | ⟨-, hsupports⟩ := entitled_cases hid
  · exact absurd hholds (notMem_withStatus hundecided)
  · exact hsupports

theorem entitled_subset :
    arena.entitled config wanted ⊆
      arena.withStatus config wanted .holds ∪ arena.withStatus config wanted .undecided := by
  intro id hid
  obtain hholds | ⟨hundecided, -⟩ := entitled_cases hid
  · exact .inl hholds
  · exact .inr hundecided

/-! ## Entitlement depends on the record of the attribute alone -/

section Keep

variable {kept : Attributes}

theorem withStatus_keep (hwanted : wanted ∈ kept) (status : Status) :
    (arena.keep kept).withStatus config wanted status = arena.withStatus config wanted status := by
  ext id
  simp only [withStatus, Set.mem_ofPred_eq, get_keep]
  cases arena.get id <;> simp [Declaration.status_keep hwanted]

@[simp]
theorem effectsOf_keep (kept : Attributes) :
    (arena.keep kept).effectsOf id = arena.effectsOf id := by
  simp only [effectsOf, get_keep]
  cases arena.get id <;> simp

@[simp]
theorem allows_keep (kept : Attributes) {relied : Set DeclId} {effect : Effect} :
    (arena.keep kept).Allows wanted relied effect ↔ arena.Allows wanted relied effect := by
  simp [Allows]

@[simp]
theorem supports_keep (kept : Attributes) {relied : Set DeclId} :
    (arena.keep kept).Supports wanted relied id ↔ arena.Supports wanted relied id := by
  simp [Supports]

theorem entitled_keep (hwanted : wanted ∈ kept) :
    (arena.keep kept).entitled config wanted = arena.entitled config wanted := by
  have hsupported : (arena.keep kept).supported config wanted =
      arena.supported config wanted := by
    ext members id
    change id ∈ (arena.keep kept).withStatus config wanted .undecided ∧ _ ↔ _ ∧ _
    simp only [withStatus_keep hwanted, supports_keep]
  rw [entitled, entitled, withStatus_keep hwanted, selfSupporting, selfSupporting, hsupported]

end Keep

/-! ## Arenas with the same record -/

theorem exists_get_of_keep_eq {left right : Arena} {kept : Attributes}
    (hkeep : left.keep kept = right.keep kept) {declaration : Declaration}
    (hget : left.get id = .ok declaration) :
    ∃ other, right.get id = .ok other ∧ declaration.keep kept = other.keep kept := by
  have hsame : (left.get id).map (Declaration.keep kept) =
      (right.get id).map (Declaration.keep kept) := by
    rw [← get_keep, hkeep, get_keep]
  cases hother : right.get id with
  | error fault => simp [hget, hother] at hsame
  | ok other => exact ⟨other, rfl, by simpa [hget, hother] using hsame⟩

theorem withStatus_congr {left right : Arena} {kept : Attributes}
    (hkeep : left.keep kept = right.keep kept) (hwanted : wanted ∈ kept) (config : Config)
    (status : Status) :
    left.withStatus config wanted status = right.withStatus config wanted status := by
  rw [← withStatus_keep hwanted, hkeep, withStatus_keep hwanted]

theorem effectsOf_congr {left right : Arena} {kept : Attributes}
    (hkeep : left.keep kept = right.keep kept) (id : DeclId) :
    left.effectsOf id = right.effectsOf id := by
  rw [← effectsOf_keep kept, hkeep, effectsOf_keep]

theorem outline_congr {left right : Arena} {kept : Attributes}
    (hkeep : left.keep kept = right.keep kept) : left.keep ∅ = right.keep ∅ := by
  have hempty : kept ∩ ∅ = (∅ : Attributes) := by
    ext guarantee
    simp
  rw [← hempty, ← keep_keep, hkeep, keep_keep]

/-- The same effects are fine in arenas that differ in the record alone. -/
theorem supports_congr {left right : Arena} {kept : Attributes}
    (hkeep : left.keep kept = right.keep kept) {relied : Set DeclId} :
    left.Supports wanted relied id ↔ right.Supports wanted relied id := by
  rw [← supports_keep kept, hkeep, supports_keep]

theorem allows_congr {left right : Arena} {kept : Attributes}
    (hkeep : left.keep kept = right.keep kept) {relied : Set DeclId} {effect : Effect} :
    left.Allows wanted relied effect ↔ right.Allows wanted relied effect := by
  rw [← allows_keep kept, hkeep, allows_keep]

end Declarations.Arena
