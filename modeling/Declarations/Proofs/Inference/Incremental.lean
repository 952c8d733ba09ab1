import Declarations.Proofs.Inference.Operation
import Declarations.Proofs.Inference.Tracking

/-!
# Steps of an early analysis

An arena goes on to track its reference when it learns more, when an attribute is taken back in the
one and denied in the other, and when the same effect is recorded in both.  Each of these steps is
followed here by itself.
-/

namespace Declarations

open Relation

namespace Arena

variable {reference next arena after : Arena} {config : Config} {wanted : Attribute}
variable {id target : DeclId} {pending : Set (DeclId × Effect)} {dropped : List DeclId}

/-! ## Denying an attribute in the reference -/

/-- The next reference differs at most in that the attribute is denied to an undecided function. -/
structure Narrows (config : Config) (wanted : Attribute) (target : DeclId)
    (reference next : Arena) : Prop where
  outline_eq : next.keep ∅ = reference.keep ∅
  status_iff : ∀ id, id ≠ target ∨ id ∉ reference.withStatus config wanted .undecided →
    ∀ status, id ∈ next.withStatus config wanted status ↔
      id ∈ reference.withStatus config wanted status
  target_cases : target ∈ reference.withStatus config wanted .undecided →
    target ∈ next.withStatus config wanted .undecided ∨
      target ∈ next.withStatus config wanted .fails

namespace Narrows

theorem refl : Narrows config wanted target reference reference where
  outline_eq := rfl
  status_iff _ _ _ := Iff.rfl
  target_cases := .inl

/-- What is undecided or holds now was so before. -/
theorem mem_of_mem (hnarrows : Narrows config wanted target reference next) {status : Status}
    (hstatus : status ≠ .fails) (hid : id ∈ next.withStatus config wanted status) :
    id ∈ reference.withStatus config wanted status := by
  by_cases hsame : id ≠ target ∨ id ∉ reference.withStatus config wanted .undecided
  · exact (hnarrows.status_iff id hsame status).mp hid
  · rw [not_or, Classical.not_not, Classical.not_not] at hsame
    obtain ⟨rfl, hundecided⟩ := hsame
    obtain hopen | hfails := hnarrows.target_cases hundecided
    · rwa [withStatus_eq_of_mem hid hopen]
    · exact absurd (withStatus_eq_of_mem hid hfails) hstatus

/-- No function gets an attribute when it is denied to another one. -/
theorem entitled_subset (hnarrows : Narrows config wanted target reference next) :
    next.entitled config wanted ⊆ reference.entitled config wanted := by
  apply subset_entitled
  intro id hid
  obtain hholds | ⟨hundecided, hsupports⟩ := entitled_cases hid
  · exact .inl (hnarrows.mem_of_mem nofun hholds)
  · exact .inr ⟨hnarrows.mem_of_mem nofun hundecided,
      (supports_congr hnarrows.outline_eq).mp hsupports⟩

end Narrows

/-- Refusing an attribute denies it to the function if that was undecided. -/
theorem exists_refuse (config : Config) (wanted : Attribute)
    (htarget : target.number < reference.size) :
    ∃ next, reference.refuse config target wanted = .ok next ∧
      Narrows config wanted target reference next ∧
      target ∉ next.withStatus config wanted .undecided ∧
      ∀ kept : Attributes, wanted ∉ kept → next.keep kept = reference.keep kept := by
  obtain ⟨declaration, hget⟩ := exists_get htarget
  have hstatus := mem_withStatus_iff_of_get hget config wanted
  by_cases hknown : declaration.status config wanted = .undecided
  · obtain ⟨next, hmodify⟩ : ∃ next,
        (reference.modify target fun declaration => declaration.conclude wanted false) =
          .ok next := by
      simp [modify, htarget]
    have hread : ∀ id, next.get id = if id = target then
        (reference.get id).map fun declaration => declaration.conclude wanted false
        else reference.get id := get_of_modify hmodify
    have hkeep : ∀ kept : Attributes, wanted ∉ kept → next.keep kept = reference.keep kept :=
      fun kept hkept => keep_eq_of_modify hget (Declaration.keep_conclude hkept false) hmodify
    have hdenied : target ∈ next.withStatus config wanted .fails := by
      refine ⟨declaration.conclude wanted false, ?_, Declaration.status_conclude hknown false⟩
      rw [hread, if_pos rfl, hget, ok_map]
    refine ⟨next, by simp [refuse, hget, hknown, hmodify],
      ⟨hkeep ∅ (FlagSet.not_mem_empty wanted), ?_, fun _ => .inr hdenied⟩, ?_, hkeep⟩
    · intro id hid status
      have hother : id ≠ target := by
        rintro rfl
        exact hid.elim (absurd rfl) (absurd ((hstatus .undecided).mpr hknown))
      simp only [withStatus, Set.mem_ofPred_eq, hread, if_neg hother]
    · intro hundecided
      exact absurd hdenied (notMem_withStatus hundecided)
  · exact ⟨reference, by simp [refuse, hget, hknown], .refl,
      fun hmem => hknown ((hstatus .undecided).mp hmem), fun _ _ => rfl⟩

/-! ## Steps of an arena that tracks a reference -/

namespace Tracks

/-- More is learned, in any number of steps. -/
theorem grow (htracks : Tracks config wanted pending reference arena)
    (hgrows : Grows config arena after) : Tracks config wanted pending reference after := by
  induction hgrows with
  | refl => exact htracks
  | tail _ hstep ih =>
    obtain ⟨other, hsettles⟩ := hstep
    exact ih.settle hsettles

/-- What can be taken back is undecided in the reference. -/
theorem undecided_of_dropped (htracks : Tracks config wanted pending reference arena)
    (hwithdrawn : Withdrawn wanted dropped arena after) (hid : id ∈ dropped) :
    id ∈ reference.withStatus config wanted .undecided ∧
      id ∈ arena.withStatus config wanted .holds := by
  obtain ⟨declaration, hget, hwithdrawable⟩ := hwithdrawn.withdrawable id hid
  exact (htracks.withdrawable_iff id declaration hget).mp hwithdrawable

/-- What holds and cannot be taken back is decided in the reference. -/
theorem not_undecided_of_kept (htracks : Tracks config wanted pending reference arena)
    (hholds : target ∈ arena.withStatus config wanted .holds)
    (hkept : ∀ declaration, arena.get target = .ok declaration →
      declaration.isWithdrawable wanted = false) :
    target ∉ reference.withStatus config wanted .undecided := by
  intro hundecided
  obtain ⟨declaration, hget⟩ := exists_get (lt_of_mem_withStatus hholds)
  have hwithdrawable :=
    (htracks.withdrawable_iff target declaration hget).mpr ⟨hundecided, hholds⟩
  rw [hkept declaration hget] at hwithdrawable
  contradiction

/-- So is the safety of a trusted function. -/
theorem not_undecided_of_trusted (htracks : Tracks config wanted pending reference arena)
    {declaration : Declaration} (hget : arena.get target = .ok declaration)
    (hsafety : wanted = .safety) (htrusted : .trusted ∈ declaration.storage)
    (hholds : target ∈ arena.withStatus config wanted .holds) :
    target ∉ reference.withStatus config wanted .undecided := by
  refine htracks.not_undecided_of_kept hholds fun found hfound => ?_
  obtain rfl : declaration = found := Except.ok.inj (hget.symm.trans hfound)
  exact Declaration.isWithdrawable_of_trusted hsafety htrusted

/-- Nothing that relied on the function has the attribute in the next reference. -/
theorem notMem_entitled_of_dropped (htracks : Tracks config wanted pending reference arena)
    (hretreats : Retreats config wanted target dropped arena after)
    (hnarrows : Narrows config wanted target reference next)
    (htarget : target ∉ next.entitled config wanted) (hid : id ∈ dropped) :
    id ∉ next.entitled config wanted := by
  have hleads := hretreats.leads id hid
  clear hid
  induction hleads using ReflTransGen.head_induction_on with
  | refl => exact htarget
  | @head caller callee hcall _ ih =>
    by_cases hsame : caller = target
    · rwa [hsame]
    · intro hentitled
      have hopen := (htracks.undecided_of_dropped hretreats.withdrawn hcall.1).1
      have hundecided := (hnarrows.status_iff caller (.inl hsame) .undecided).mpr hopen
      have hcalls : next.CallsTo caller callee :=
        (callsTo_congr (hnarrows.outline_eq.trans htracks.outline_eq.symm)).mpr hcall.2
      exact ih (entitled_of_dependsOn ⟨hundecided, hcalls⟩ hentitled)

/-- The attribute is taken from a function that does not have it in the next reference, and from all
that relied on it. -/
theorem drop (htracks : Tracks config wanted pending reference arena)
    (hretreats : Retreats config wanted target dropped arena after)
    (hnarrows : Narrows config wanted target reference next)
    (htarget : target ∉ next.entitled config wanted)
    (hpending : ∀ entry ∈ pending, entry.1 = target) :
    Tracks config wanted ∅ next after := by
  have hwithdrawn := hretreats.withdrawn
  have hopen := fun id (hid : id ∈ dropped) => htracks.undecided_of_dropped hwithdrawn hid
  have hfails : ∀ id ∈ dropped, id ∈ after.withStatus config wanted .fails :=
    fun id hid => hwithdrawn.mem_fails (htracks.remembers id) hid
  have hkept : ∀ id ∉ dropped, ∀ status, id ∈ after.withStatus config wanted status ↔
      id ∈ arena.withStatus config wanted status :=
    fun id hid => hwithdrawn.mem_withStatus_iff hid
  have hother : ∀ id ∉ dropped, id ≠ target := by
    rintro id hid rfl
    exact hid hretreats.root_mem
  constructor
  case outline_eq =>
    exact hwithdrawn.outline_eq.trans (htracks.outline_eq.trans hnarrows.outline_eq.symm)
  case status_iff =>
    intro id hdecided status
    by_cases hid : id ∈ dropped
    · obtain rfl : id = target := by
        by_contra hsame
        exact hdecided ((hnarrows.status_iff id (.inl hsame) .undecided).mpr (hopen id hid).1)
      have hdenied := (hnarrows.target_cases (hopen id hid).1).resolve_left hdecided
      exact withStatus_iff_of_mem (hfails id hid) hdenied status
    · rw [hkept id hid, hnarrows.status_iff id (.inl (hother id hid))]
      refine htracks.status_iff id (fun hundecided => hdecided ?_) status
      exact (hnarrows.status_iff id (.inl (hother id hid)) .undecided).mpr hundecided
  case withdrawable_iff =>
    intro id declaration hget
    by_cases hid : id ∈ dropped
    · obtain ⟨earlier, hearlier, hwithdrawable⟩ := hwithdrawn.withdrawable id hid
      obtain ⟨state, hfunc, -⟩ := Declaration.exists_of_isWithdrawable hwithdrawable
      rw [hwithdrawn.get_eq, if_pos hid, hearlier, ok_map, Except.ok.injEq] at hget
      have hnot : id ∉ after.withStatus config wanted .holds :=
        fun hholds => (hwithdrawn.mem_holds_iff.mp hholds).1 hid
      simp [← hget, Declaration.isWithdrawable_withdraw hfunc, hnot]
    · rw [hwithdrawn.get_eq, if_neg hid] at hget
      rw [hkept id hid, hnarrows.status_iff id (.inl (hother id hid))]
      exact htracks.withdrawable_iff id declaration hget
  case remembers =>
    exact fun id declaration hget => hwithdrawn.remembers (htracks.remembers id) hget
  case granted =>
    intro id hundecided hholds effect heffect _
    obtain ⟨hid, hheld⟩ := hwithdrawn.mem_holds_iff.mp hholds
    have hundecided := (hnarrows.status_iff id (.inl (hother id hid)) .undecided).mp hundecided
    rw [effectsOf_congr hwithdrawn.outline_eq] at heffect
    rw [allows_congr hwithdrawn.outline_eq]
    have hallows := htracks.granted id hundecided hheld effect heffect
      fun hmem => hother id hid (hpending _ hmem)
    refine hallows.of_callees fun callee hcallee hrelied => ?_
    refine hwithdrawn.mem_holds_iff.mpr ⟨fun hlostCallee => hid ?_, hrelied⟩
    obtain ⟨declaration, hget⟩ := exists_get (lt_of_mem_withStatus hheld)
    exact hretreats.complete callee hlostCallee id declaration hget
      ((htracks.withdrawable_iff id declaration hget).mpr ⟨hundecided, hheld⟩) hheld
      ⟨effect, heffect, hcallee⟩
  case denied =>
    intro id hundecided hdenied hentitled
    by_cases hid : id ∈ dropped
    · exact htracks.notMem_entitled_of_dropped hretreats hnarrows htarget hid hentitled
    · rw [hkept id hid] at hdenied
      rw [hnarrows.status_iff id (.inl (hother id hid))] at hundecided
      exact htracks.denied id hundecided hdenied (hnarrows.entitled_subset hentitled)

/-- The attribute is denied in the reference to a function to which the arena has denied it. -/
theorem narrow (htracks : Tracks config wanted pending reference arena)
    (hnarrows : Narrows config wanted target reference next)
    (hnext : target ∉ next.withStatus config wanted .undecided)
    (hfails : target ∈ reference.withStatus config wanted .undecided →
      target ∈ arena.withStatus config wanted .fails) :
    Tracks config wanted pending next arena := by
  constructor
  case outline_eq => exact htracks.outline_eq.trans hnarrows.outline_eq.symm
  case status_iff =>
    intro id hdecided status
    by_cases hsame : id ≠ target ∨ id ∉ reference.withStatus config wanted .undecided
    · rw [hnarrows.status_iff id hsame] at hdecided ⊢
      exact htracks.status_iff id hdecided status
    · rw [not_or, Classical.not_not, Classical.not_not] at hsame
      obtain ⟨rfl, hundecided⟩ := hsame
      have hdenied := (hnarrows.target_cases hundecided).resolve_left hnext
      exact withStatus_iff_of_mem (hfails hundecided) hdenied status
  case withdrawable_iff =>
    intro id declaration hget
    rw [htracks.withdrawable_iff id declaration hget]
    refine and_congr_left fun hholds => ⟨fun hundecided => ?_, hnarrows.mem_of_mem nofun⟩
    refine (hnarrows.status_iff id (.inl ?_) .undecided).mpr hundecided
    rintro rfl
    exact absurd hholds (notMem_withStatus (hfails hundecided))
  case remembers => exact htracks.remembers
  case granted =>
    intro id hundecided
    exact htracks.granted id (hnarrows.mem_of_mem nofun hundecided)
  case denied =>
    intro id hundecided hdenied hentitled
    exact htracks.denied id (hnarrows.mem_of_mem nofun hundecided) hdenied
      (hnarrows.entitled_subset hentitled)

/-- The attribute is denied to an undecided function. -/
theorem refuse (htracks : Tracks config wanted pending reference arena)
    (hnarrows : Narrows config wanted target reference next)
    (hnext : target ∉ next.withStatus config wanted .undecided)
    (hundecided : target ∈ arena.withStatus config wanted .undecided)
    (hconclude : arena.conclude wanted false [target] = .ok after) :
    Tracks config wanted pending next after := by
  have houtline := keep_of_conclude (FlagSet.not_mem_empty wanted) hconclude
  have hget := get_of_conclude (List.nodup_singleton target) hconclude
  have hstatus := Settles.mem_withStatus_iff (List.nodup_singleton target)
    (List.forall_mem_singleton.mpr hundecided) hconclude
  simp only [List.mem_singleton] at hget hstatus
  have hopen := htracks.undecided_of_undecided hundecided
  have hdenied := (hnarrows.target_cases hopen).resolve_left hnext
  have hother : ∀ id, id ≠ target → ∀ status,
      (id ∈ after.withStatus config wanted status ↔ id ∈ arena.withStatus config wanted status) :=
    fun id hid status => by rw [hstatus, if_neg hid]
  have hholds : ∀ id, id ∈ after.withStatus config wanted .holds ↔
      id ∈ arena.withStatus config wanted .holds := by
    intro id
    by_cases hid : id = target
    · subst hid
      have hnot : id ∉ arena.withStatus config wanted .holds := by
        intro hheld
        exact absurd hheld (notMem_withStatus hundecided)
      simp [hstatus, hnot]
    · exact hother id hid .holds
  constructor
  case outline_eq => exact houtline.trans (htracks.outline_eq.trans hnarrows.outline_eq.symm)
  case status_iff =>
    intro id hdecided status
    by_cases hid : id = target
    · subst hid
      have hfails : id ∈ after.withStatus config wanted .fails := by simp [hstatus]
      exact withStatus_iff_of_mem hfails hdenied status
    · rw [hother id hid]
      rw [hnarrows.status_iff id (.inl hid)] at hdecided ⊢
      exact htracks.status_iff id hdecided status
  case withdrawable_iff =>
    intro id declaration hdeclaration
    by_cases hid : id = target
    · subst hid
      obtain ⟨earlier, hearlier, hknown⟩ := hundecided
      rw [hget, if_pos rfl, hearlier, ok_map, Except.ok.injEq] at hdeclaration
      rw [← hdeclaration, Declaration.isWithdrawable_conclude_false,
        htracks.withdrawable_iff id earlier hearlier, hholds,
        mem_withStatus_iff_of_get hearlier config wanted .holds, hknown]
      simp
    · rw [hget, if_neg hid] at hdeclaration
      rw [hholds, hnarrows.status_iff id (.inl hid)]
      exact htracks.withdrawable_iff id declaration hdeclaration
  case remembers =>
    exact fun id declaration => remembers_of_conclude (List.nodup_singleton target) hconclude
      (htracks.remembers id)
  case granted =>
    intro id hundecidedId hheld effect heffect hchecked
    rw [effectsOf_congr houtline] at heffect
    rw [allows_congr houtline]
    exact (htracks.granted id (hnarrows.mem_of_mem nofun hundecidedId) ((hholds id).mp hheld)
      effect heffect hchecked).mono fun other => (hholds other).mpr
  case denied =>
    intro id hundecidedId hfails
    have hid : id ≠ target := by
      rintro rfl
      exact hnext hundecidedId
    rw [hother id hid] at hfails
    exact fun hentitled => htracks.denied id (hnarrows.mem_of_mem nofun hundecidedId) hfails
      (hnarrows.entitled_subset hentitled)

/-- A downgrade denies the attribute in the reference. -/
theorem downgrade {cause : Option Effect} {errors : List DeclError}
    (htracks : Tracks config wanted ∅ reference arena)
    (hnarrows : Narrows config wanted target reference next)
    (hnext : target ∉ next.withStatus config wanted .undecided)
    (hdowngraded : Downgraded config wanted target cause arena errors after) :
    Tracks config wanted ∅ next after := by
  cases hdowngraded with
  | dropped retreats =>
    have hopen := (htracks.undecided_of_dropped retreats.withdrawn retreats.root_mem).1
    have hdenied := (hnarrows.target_cases hopen).resolve_left hnext
    refine htracks.drop retreats hnarrows (fun hentitled => ?_) (by simp)
    obtain hholds | hundecided := Arena.entitled_subset hentitled
    · exact absurd hholds (notMem_withStatus hdenied)
    · exact hnext hundecided
  | refused undecided concluded => exact htracks.refuse hnarrows hnext undecided concluded
  | violated holds written =>
    have hdecided := htracks.not_undecided_of_kept holds written
    exact htracks.narrow hnarrows hnext fun hundecided => absurd hundecided hdecided
  | settled fails => exact htracks.narrow hnarrows hnext fun _ => fails
  | trusted safety get_eq mem holds =>
    have hdecided := htracks.not_undecided_of_trusted get_eq safety mem holds
    exact htracks.narrow hnarrows hnext fun hundecided => absurd hundecided hdecided

end Tracks

/-! ## Recording an effect -/

namespace Tracks

variable {before : Arena} {effect : Effect}

/-- The same effect is added to the reference.  It is still to be checked. -/
theorem addEffect (htracks : Tracks config wanted ∅ reference before)
    (hadd : before.modifyFunc target (·.addEffect effect) = .ok after)
    (hnext : reference.modifyFunc target (·.addEffect effect) = .ok next)
    (hbody : reference.HasBody target) :
    Tracks config wanted {(target, effect)} next after := by
  have hbefore : before.HasBody target := hasBody_of_keep_eq htracks.outline_eq hbody
  have hstatus : ∀ id status, id ∈ after.withStatus config wanted status ↔
      id ∈ before.withStatus config wanted status :=
    fun id status => withStatus_of_addEffect hadd hbefore status
  have hreference : ∀ id status, id ∈ next.withStatus config wanted status ↔
      id ∈ reference.withStatus config wanted status :=
    fun id status => withStatus_of_addEffect hnext hbody status
  -- A declaration of the changed arena has the record of one of the arena before.
  have hrecord : ∀ id declaration, after.get id = .ok declaration →
      ∃ earlier, before.get id = .ok earlier ∧
        declaration.isWithdrawable wanted = earlier.isWithdrawable wanted ∧
        (earlier.Remembers wanted → declaration.Remembers wanted) := by
    intro id declaration hget
    obtain ⟨earlier, hearlier, rfl | rfl⟩ := exists_get_of_modifyFunc hadd hget
    · exact ⟨declaration, hearlier, rfl, fun hremembers => hremembers⟩
    · exact ⟨earlier, hearlier, Declaration.isWithdrawable_mapFunc fun _ => rfl,
        fun hremembers => hremembers.mapFunc (fun _ => rfl) fun _ => rfl⟩
  constructor
  case outline_eq =>
    have hleft := keep_of_addEffect hadd ∅
    rw [htracks.outline_eq, keep_of_addEffect hnext ∅, Except.ok.injEq] at hleft
    exact hleft.symm
  case status_iff =>
    intro id hdecided status
    rw [hreference] at hdecided ⊢
    rw [hstatus]
    exact htracks.status_iff id hdecided status
  case withdrawable_iff =>
    intro id declaration hget
    obtain ⟨earlier, hearlier, hsame, -⟩ := hrecord id declaration hget
    rw [hsame, hreference, hstatus]
    exact htracks.withdrawable_iff id earlier hearlier
  case remembers =>
    intro id declaration hget
    obtain ⟨earlier, hearlier, -, hremembers⟩ := hrecord id declaration hget
    exact hremembers (htracks.remembers id earlier hearlier)
  case granted =>
    intro id hundecided hholds other hother hchecked
    rw [hreference] at hundecided
    rw [hstatus] at hholds
    obtain hother | ⟨rfl, rfl⟩ := mem_effectsOf_of_addEffect hadd hother
    · rw [allows_of_addEffect hadd]
      exact (htracks.granted id hundecided hholds other hother (by simp)).mono
        fun callee => (hstatus callee .holds).mpr
    · exact absurd rfl hchecked
  case denied =>
    intro id hundecided hfails hentitled
    rw [hreference] at hundecided
    rw [hstatus] at hfails
    exact htracks.denied id hundecided hfails (entitled_of_addEffect hnext hbody hentitled)

variable {session checked : Session}

/-- The check of the attribute against the pending effect. -/
theorem check (htracks : Tracks config wanted pending reference session.arena)
    (hpending : pending ⊆ {(target, effect)}) (heffect : effect ∈ session.arena.effectsOf target)
    (hchecked : session.Checked config target target effect wanted checked) :
    Tracks config wanted ∅ reference checked.arena := by
  have hsettled : ∀ {arena : Arena}, Tracks config wanted pending reference arena →
      (target ∈ reference.withStatus config wanted .undecided →
        target ∈ arena.withStatus config wanted .holds →
        arena.Allows wanted (arena.withStatus config wanted .holds) effect) →
      Tracks config wanted ∅ reference arena := by
    intro arena htracks hfine
    refine { htracks with granted := fun id hundecided hholds other hother _ => ?_ }
    by_cases hmem : (id, other) ∈ pending
    · obtain ⟨rfl, rfl⟩ : id = target ∧ other = effect := by simpa using hpending hmem
      exact hfine hundecided hholds
    · exact htracks.granted id hundecided hholds other hother hmem
  cases hchecked with
  | unneeded lacks => exact hsettled htracks fun _ hholds => absurd hholds lacks
  | fine holds answered =>
    refine hsettled (htracks.grow answered.learns.grows) fun _ _ => ?_
    exact answered.learns.allows_iff.mpr (answered.sound rfl)
  | @broken middle errors arena holds answered downgraded =>
    have hlearned := htracks.grow answered.learns.grows
    have hheld := answered.learns.holds_subset holds
    have hbroken : ¬middle.arena.Allows wanted (reference.entitled config wanted) effect := by
      intro hallows
      refine answered.broken rfl (answered.learns.allows_iff.mp (hallows.mono ?_))
      exact hlearned.entitled_subset.trans Arena.entitled_subset
    cases downgraded with
    | dropped retreats =>
      refine hlearned.drop retreats .refl (fun hentitled => hbroken ?_) fun entry hentry => ?_
      · have hundecided :=
          (hlearned.undecided_of_dropped retreats.withdrawn retreats.root_mem).1
        have hmem : effect ∈ reference.effectsOf target := by
          rwa [← effectsOf_congr hlearned.outline_eq, answered.learns.effectsOf_eq]
        exact (allows_congr hlearned.outline_eq).mpr
          (supports_of_entitled hentitled hundecided effect hmem)
      · rw [hpending hentry]
    | refused undecided =>
      exact absurd hheld (notMem_withStatus undecided)
    | violated _ written =>
      have hdecided := hlearned.not_undecided_of_kept hheld written
      exact hsettled hlearned fun hundecided _ => absurd hundecided hdecided
    | settled fails =>
      exact absurd hheld (notMem_withStatus fails)
    | trusted safety get_eq mem =>
      have hdecided := hlearned.not_undecided_of_trusted get_eq safety mem hheld
      exact hsettled hlearned fun hundecided _ => absurd hundecided hdecided

/-- Once all attributes were checked nothing is pending. -/
theorem checkEach {attributes : List Attribute}
    (htracks : Tracks config wanted pending reference session.arena)
    (hpending : pending ⊆ {(target, effect)}) (heffect : effect ∈ session.arena.effectsOf target)
    (hchecked : session.CheckedEach config target target effect attributes checked)
    (hwanted : pending = ∅ ∨ wanted ∈ attributes) :
    Tracks config wanted ∅ reference checked.arena := by
  induction hchecked generalizing pending with
  | nil => simpa [hwanted.resolve_right (by simp)] using htracks
  | @cons other attributes before middle after checked _ ih =>
    have hmem : effect ∈ middle.arena.effectsOf target := by
      rwa [effectsOf_congr checked.outline_eq]
    by_cases hother : other = wanted
    · subst hother
      exact ih (htracks.check hpending heffect checked) (by simp) hmem (.inl rfl)
    · have hnext := htracks.of_keep_eq (checked.keep_eq (by simpa using hother))
      refine ih hnext hpending hmem (hwanted.imp_right fun hmember => ?_)
      exact (List.mem_cons.mp hmember).resolve_left (Ne.symm hother)

end Tracks

end Arena

end Declarations
