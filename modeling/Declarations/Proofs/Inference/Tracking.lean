import Declarations.Proofs.Inference.LateEffect

/-!
# Early conclusions

Attributes can be asked for while effects are still being found, so conclusions are drawn early and
taken back later.  They are compared with a reference: the arena to which the same effects were
added and in which nothing was inferred.  An arena tracks its reference as long as every attribute
that it has inferred is supported by others that hold, and it has denied none that the reference
allows.  Then both give the same answers.
-/

namespace Declarations

open Relation

namespace Arena

/-- The arena agrees with the reference about an attribute.  The effects in `pending` are still to
be checked. -/
structure Tracks (config : Config) (wanted : Attribute) (pending : Set (DeclId × Effect))
    (reference arena : Arena) : Prop where
  outline_eq : arena.keep ∅ = reference.keep ∅
  status_iff : ∀ id ∉ reference.withStatus config wanted .undecided, ∀ status,
    id ∈ arena.withStatus config wanted status ↔ id ∈ reference.withStatus config wanted status
  withdrawable_iff : ∀ id declaration, arena.get id = .ok declaration →
    (declaration.isWithdrawable wanted = true ↔
      id ∈ reference.withStatus config wanted .undecided ∧
        id ∈ arena.withStatus config wanted .holds)
  remembers : ∀ id declaration, arena.get id = .ok declaration → declaration.Remembers wanted
  granted : ∀ id ∈ reference.withStatus config wanted .undecided,
    id ∈ arena.withStatus config wanted .holds → ∀ effect ∈ arena.effectsOf id,
      (id, effect) ∉ pending → arena.Allows wanted (arena.withStatus config wanted .holds) effect
  denied : ∀ id ∈ reference.withStatus config wanted .undecided,
    id ∈ arena.withStatus config wanted .fails → id ∉ reference.entitled config wanted

variable {reference arena after : Arena} {config : Config} {wanted : Attribute} {id : DeclId}
variable {pending : Set (DeclId × Effect)}

/-- What is concluded is recorded as settled. -/
theorem remembers_of_conclude {holds : Bool} {members : List DeclId} (hnodup : members.Nodup)
    (hconclude : arena.conclude wanted holds members = .ok after)
    (hremembers : ∀ declaration, arena.get id = .ok declaration → declaration.Remembers wanted)
    {declaration : Declaration} (hget : after.get id = .ok declaration) :
    declaration.Remembers wanted := by
  rw [get_of_conclude hnodup hconclude] at hget
  split at hget
  · cases hearlier : arena.get id with
    | error fault => simp [hearlier] at hget
    | ok earlier =>
      rw [hearlier, ok_map, Except.ok.injEq] at hget
      rw [← hget]
      exact Declaration.remembers_conclude earlier wanted holds
  · exact hremembers declaration hget

namespace Tracks

/-- The arena tracks itself when nothing is inferred. -/
theorem refl (hinferred : ∀ id declaration state, arena.get id = .ok declaration →
      declaration.asFunc? = some state → wanted ∉ state.inferred) :
    Tracks config wanted ∅ arena arena where
  outline_eq := rfl
  status_iff _ _ _ := Iff.rfl
  withdrawable_iff := by
    intro id declaration hget
    constructor
    · intro hwithdrawable
      obtain ⟨state, hfunc, hmem, -⟩ := Declaration.exists_of_isWithdrawable hwithdrawable
      exact absurd hmem (hinferred id declaration state hget hfunc)
    · rintro ⟨hundecided, hholds⟩
      exact absurd hundecided (notMem_withStatus hholds)
  remembers id declaration hget state hfunc hmem :=
    absurd hmem (hinferred id declaration state hget hfunc)
  granted := by
    intro id hundecided hholds
    exact absurd hundecided (notMem_withStatus hholds)
  denied := by
    intro id hundecided hfails
    exact absurd hundecided (notMem_withStatus hfails)

variable (htracks : Tracks config wanted pending reference arena)

include htracks

/-- Only the record of the attribute matters. -/
theorem of_keep_eq (hkeep : after.keep {wanted} = arena.keep {wanted}) :
    Tracks config wanted pending reference after := by
  have hmem : wanted ∈ ({wanted} : Attributes) := by simp
  have hstatus := withStatus_congr hkeep hmem config
  have houtline := outline_congr hkeep
  constructor
  case outline_eq => exact houtline.trans htracks.outline_eq
  case status_iff =>
    intro id hdecided status
    rw [hstatus]
    exact htracks.status_iff id hdecided status
  case withdrawable_iff =>
    intro id declaration hget
    obtain ⟨other, hother, hsame⟩ := exists_get_of_keep_eq hkeep hget
    rw [hstatus, ← Declaration.isWithdrawable_keep hmem, hsame,
      Declaration.isWithdrawable_keep hmem]
    exact htracks.withdrawable_iff id other hother
  case remembers =>
    intro id declaration hget
    obtain ⟨other, hother, hsame⟩ := exists_get_of_keep_eq hkeep hget
    rw [← Declaration.remembers_keep hmem, hsame, Declaration.remembers_keep hmem]
    exact htracks.remembers id other hother
  case granted =>
    intro id hundecided hholds effect heffect hchecked
    rw [hstatus] at hholds ⊢
    rw [effectsOf_congr hkeep] at heffect
    rw [allows_congr hkeep]
    exact htracks.granted id hundecided hholds effect heffect hchecked
  case denied =>
    intro id hundecided hfails
    rw [hstatus] at hfails
    exact htracks.denied id hundecided hfails

/-- The same is true of the reference. -/
theorem of_reference_keep_eq {next : Arena}
    (hkeep : next.keep {wanted} = reference.keep {wanted}) :
    Tracks config wanted pending next arena := by
  have hmem : wanted ∈ ({wanted} : Attributes) := by simp
  have hstatus := withStatus_congr hkeep hmem config
  have hentitled : next.entitled config wanted = reference.entitled config wanted := by
    rw [← entitled_keep hmem, hkeep, entitled_keep hmem]
  refine ⟨htracks.outline_eq.trans (outline_congr hkeep).symm, ?_, ?_, htracks.remembers, ?_, ?_⟩
  · simp only [hstatus]
    exact htracks.status_iff
  · simp only [hstatus]
    exact htracks.withdrawable_iff
  · simp only [hstatus]
    exact htracks.granted
  · simp only [hstatus, hentitled]
    exact htracks.denied

theorem undecided_of_undecided (hundecided : id ∈ arena.withStatus config wanted .undecided) :
    id ∈ reference.withStatus config wanted .undecided := by
  by_contra hdecided
  exact hdecided ((htracks.status_iff id hdecided .undecided).mp hundecided)

theorem exists_withStatus (hid : id.number < reference.size) :
    ∃ status, id ∈ arena.withStatus config wanted status := by
  have hsize := size_of_keep_eq htracks.outline_eq
  obtain ⟨declaration, hget⟩ := exists_get (hid.trans_eq hsize.symm)
  exact ⟨_, declaration, hget, rfl⟩

/-- What has an attribute in the reference has it in the arena. -/
theorem entitled_subset : reference.entitled config wanted ⊆ arena.entitled config wanted := by
  apply subset_entitled
  intro id hid
  obtain hholds | ⟨hundecided, hsupports⟩ := entitled_cases hid
  · left
    refine (htracks.status_iff id (fun hundecided => ?_) .holds).mpr hholds
    exact absurd hundecided (notMem_withStatus hholds)
  · obtain ⟨status, hstatus⟩ := htracks.exists_withStatus (lt_of_mem_withStatus hundecided)
    cases status with
    | holds => exact .inl hstatus
    | fails => exact absurd hid (htracks.denied id hundecided hstatus)
    | undecided => exact .inr ⟨hstatus, (supports_congr htracks.outline_eq).mpr hsupports⟩

/-- More is learned. -/
theorem settle {other : Attribute} (hsettles : Settles config other arena after) :
    Tracks config wanted pending reference after := by
  by_cases hother : other ≠ wanted
  · exact htracks.of_keep_eq (hsettles.keep_eq (by simpa using hother))
  obtain rfl : other = wanted := Classical.not_not.mp hother
  have houtline := hsettles.keep_eq (FlagSet.not_mem_empty other)
  obtain ⟨members, holds, hnodup, hmembers, hconclude⟩ := hsettles.exists_group
  have hundecided := fun member hmember => (hmembers member hmember).1
  have hopen := fun member hmember =>
    htracks.undecided_of_undecided (hundecided member hmember)
  have hstatus := Settles.mem_withStatus_iff hnodup hundecided hconclude
  have hget := get_of_conclude hnodup hconclude
  constructor
  case outline_eq => exact houtline.trans htracks.outline_eq
  case status_iff =>
    intro id hdecided status
    rw [hstatus, if_neg fun hmember => hdecided (hopen id hmember)]
    exact htracks.status_iff id hdecided status
  case withdrawable_iff =>
    intro id declaration hdeclaration
    rw [hget] at hdeclaration
    split at hdeclaration
    · next hmember =>
      obtain ⟨earlier, hearlier, hknown⟩ := hundecided id hmember
      rw [hearlier, ok_map, Except.ok.injEq] at hdeclaration
      rw [← hdeclaration, hstatus, if_pos hmember]
      cases holds with
      | true => simp [Declaration.isWithdrawable_conclude_true hknown, hopen id hmember]
      | false =>
        have hnot : id ∉ arena.withStatus config other .holds := by
          rw [mem_withStatus_iff_of_get hearlier, hknown]
          simp
        simp [Declaration.isWithdrawable_conclude_false,
          htracks.withdrawable_iff id earlier hearlier, hnot]
    · next hmember =>
      rw [hstatus, if_neg hmember]
      exact htracks.withdrawable_iff id declaration hdeclaration
  case remembers =>
    exact fun id declaration => remembers_of_conclude hnodup hconclude (htracks.remembers id)
  case granted =>
    intro id hundecidedId hholds effect heffect hchecked
    rw [effectsOf_congr houtline] at heffect
    rw [allows_congr houtline]
    by_cases hbefore : id ∈ arena.withStatus config other .undecided
    · exact hsettles.supports_of_granted hbefore hholds effect heffect
    · have hold : id ∈ arena.withStatus config other .holds := by
        rw [hstatus] at hholds
        split at hholds
        · next hmember => exact absurd (hundecided id hmember) hbefore
        · exact hholds
      exact (htracks.granted id hundecidedId hold effect heffect hchecked).mono
        hsettles.holds_subset
  case denied =>
    intro id hundecidedId hfails hentitled
    rw [hstatus] at hfails
    split at hfails
    · next hmember =>
      have hholds := (hmembers id hmember).2.mp (htracks.entitled_subset hentitled)
      simp [hholds] at hfails
    · exact htracks.denied id hundecidedId hfails hentitled

end Tracks

/-- Without pending effects the arena and the reference give the same answers. -/
theorem Tracks.entitled_eq (htracks : Tracks config wanted ∅ reference arena) :
    arena.entitled config wanted = reference.entitled config wanted := by
  apply Set.Subset.antisymm _ htracks.entitled_subset
  apply subset_entitled
  intro id hid
  obtain hholds | ⟨hundecided, hsupports⟩ := entitled_cases hid
  · by_cases hopen : id ∈ reference.withStatus config wanted .undecided
    · refine .inr ⟨hopen, ?_⟩
      rw [← supports_congr htracks.outline_eq]
      exact fun effect heffect =>
        (htracks.granted id hopen hholds effect heffect (by simp)).mono Set.subset_union_left
    · exact .inl ((htracks.status_iff id hopen .holds).mp hholds)
  · exact .inr ⟨htracks.undecided_of_undecided hundecided,
      (supports_congr htracks.outline_eq).mp hsupports⟩

end Arena

end Declarations
