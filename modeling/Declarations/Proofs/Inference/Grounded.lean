import Declarations.Proofs.Inference.Interleaving
import Declarations.Proofs.Inference.Rejection

/-!
# Inferred attributes are supported

What inference has recorded stays right while effects are added and attributes are taken back: a
function with an inferred attribute has a body in which every effect is fine, because the functions
that it calls have the attribute at that moment.  Each operation breaks this for a while.  An effect
that was just added is pending until every attribute was checked against it, and a function that
lost an attribute leaves its callers unsupported until the attribute was taken from them as well.
-/

namespace Declarations

open Relation

namespace Declaration

/-- The record of an attribute agrees with the storage class. -/
structure Faithful (wanted : Attribute) (declaration : Declaration) : Prop where
  granted : ∀ state, declaration.asFunc? = some state → wanted ∈ state.inferred →
    wanted ∈ state.concluded ∧ wanted.flag ∈ declaration.storage ∧ state.body.isSome = true ∧
      ¬(wanted = .safety ∧ .trusted ∈ declaration.storage)
  denied : ∀ state, declaration.asFunc? = some state → wanted ∈ state.concluded →
    wanted ∉ state.inferred → wanted.holdsIn declaration.storage = false

variable {declaration next : Declaration} {state : Func} {config : Config} {wanted : Attribute}

theorem faithful_iff (hfunc : declaration.asFunc? = some state) :
    declaration.Faithful wanted ↔
      (wanted ∈ state.inferred →
        wanted ∈ state.concluded ∧ wanted.flag ∈ declaration.storage ∧ state.body.isSome = true ∧
          ¬(wanted = .safety ∧ .trusted ∈ declaration.storage)) ∧
      (wanted ∈ state.concluded → wanted ∉ state.inferred →
        wanted.holdsIn declaration.storage = false) := by
  constructor
  · intro hfaithful
    exact ⟨hfaithful.granted state hfunc, hfaithful.denied state hfunc⟩
  · rintro ⟨hgranted, hdenied⟩
    constructor
    all_goals
      intro found hfound
      rw [hfunc, Option.some.injEq] at hfound
      subst found
      assumption

theorem faithful_of_asFunc?_eq_none (hfunc : declaration.asFunc? = none) :
    declaration.Faithful wanted := by
  constructor <;> simp [hfunc]

/-- A declaration about which nothing is recorded is faithful. -/
theorem faithful_of_isFresh (hfresh : declaration.isFresh = true) :
    declaration.Faithful wanted := by
  cases hfunc : declaration.asFunc? with
  | none => exact faithful_of_asFunc?_eq_none hfunc
  | some state =>
    simp only [isFresh, hfunc, Option.all_some, Bool.and_eq_true, decide_eq_true_iff] at hfresh
    simp [faithful_iff hfunc, hfresh]

theorem isWithdrawable_of_isFresh (hfresh : declaration.isFresh = true) :
    declaration.isWithdrawable wanted = false := by
  rw [← Bool.not_eq_true]
  intro hwithdrawable
  obtain ⟨state, hfunc, hinferred, -⟩ := exists_of_isWithdrawable hwithdrawable
  simp only [isFresh, hfunc, Option.all_some, Bool.and_eq_true, decide_eq_true_iff] at hfresh
  simp [hfresh] at hinferred

/-! ## What changes preserve -/

/-- Only the record of the attribute matters. -/
theorem faithful_keep {kept : Attributes} (hwanted : wanted ∈ kept) :
    (declaration.keep kept).Faithful wanted ↔ declaration.Faithful wanted := by
  cases hfunc : declaration.asFunc? with
  | none => rw [keep_of_asFunc?_eq_none hfunc]
  | some state =>
    have hkept : (declaration.keep kept).asFunc? = some (state.keep kept) := by
      rw [asFunc?_keep, hfunc, Option.map_some]
    have hflag : wanted.flag ∈ (declaration.keep kept).storage ↔
        wanted.flag ∈ declaration.storage := mem_storage_keep (by simpa using hwanted)
    rw [faithful_iff hkept, faithful_iff hfunc, holdsIn_keep hwanted, hflag, mem_trusted_keep]
    simp [Func.keep, hwanted]

theorem Faithful.of_keep_eq (hfaithful : declaration.Faithful wanted)
    (hkeep : next.keep {wanted} = declaration.keep {wanted}) : next.Faithful wanted := by
  have hmem : wanted ∈ ({wanted} : Attributes) := by simp
  rwa [← faithful_keep hmem, hkeep, faithful_keep hmem]

theorem faithful_unmarked : declaration.unmarked.Faithful wanted ↔ declaration.Faithful wanted := by
  cases hfunc : declaration.asFunc? with
  | none => rw [unmarked, mapFunc_of_asFunc?_eq_none hfunc]
  | some state =>
    have hunmarked : declaration.unmarked.asFunc? = some state.unmarked := by
      rw [unmarked, asFunc?_mapFunc, hfunc, Option.map_some]
    rw [faithful_iff hunmarked, faithful_iff hfunc, unmarked, storage_mapFunc]
    rfl

/-- A function that gets another effect gets a body if it had none. -/
theorem Faithful.addEffect (hfaithful : declaration.Faithful wanted) (effect : Effect) :
    (declaration.mapFunc (·.addEffect effect)).Faithful wanted := by
  cases hfunc : declaration.asFunc? with
  | none => rwa [mapFunc_of_asFunc?_eq_none hfunc]
  | some state =>
    have hadded : (declaration.mapFunc (·.addEffect effect)).asFunc? =
        some (state.addEffect effect) := by
      rw [asFunc?_mapFunc, hfunc, Option.map_some]
    rw [faithful_iff hfunc] at hfaithful
    rw [faithful_iff hadded, storage_mapFunc]
    refine ⟨fun hinferred => ?_, hfaithful.2⟩
    obtain ⟨hconcluded, hflag, -, htrusted⟩ := hfaithful.1 hinferred
    exact ⟨hconcluded, hflag, rfl, htrusted⟩

/-- What is concluded about an undecided attribute is recorded in the storage class as well. -/
theorem Faithful.conclude (hfaithful : declaration.Faithful wanted)
    (hstatus : declaration.status config wanted = .undecided) (holds : Bool) :
    (declaration.conclude wanted holds).Faithful wanted := by
  obtain ⟨state, hfunc, hholds, hopen, -⟩ := exists_of_status_undecided hstatus
  have hbody := isSome_body_of_undecided hstatus hfunc
  rw [faithful_iff hfunc] at hfaithful
  rw [faithful_iff (asFunc?_conclude hfunc holds), conclude_of_asFunc? hfunc]
  cases holds with
  | true =>
    have htrusted : ¬(wanted = .safety ∧ .trusted ∈ declaration.storage) := by
      intro hmem
      rw [Attribute.holdsIn_iff.mpr (.inr hmem)] at hholds
      contradiction
    refine ⟨fun _ => ⟨by simp, by simp, hbody, ?_⟩, fun _ hnot => absurd (by simp) hnot⟩
    rintro ⟨rfl, hmem⟩
    exact htrusted ⟨rfl, by simpa [Attribute.flag] using hmem⟩
  | false => exact ⟨fun hinferred => absurd (hfaithful.1 hinferred).1 hopen, fun _ _ => hholds⟩

/-- What is taken back is taken from the storage class as well. -/
theorem faithful_withdraw (hwithdrawable : declaration.isWithdrawable wanted = true) :
    (declaration.withdraw wanted).Faithful wanted := by
  obtain ⟨state, hfunc, -⟩ := exists_of_isWithdrawable hwithdrawable
  rw [faithful_iff (asFunc?_withdraw hfunc)]
  exact ⟨by simp, fun _ _ => holdsIn_withdraw hwithdrawable⟩

theorem Revises.faithful (hrevises : Revises config declaration next)
    (hfaithful : declaration.Faithful wanted) : next.Faithful wanted := by
  cases hrevises with
  | @concluded other holds undecided =>
    by_cases hother : other = wanted
    · subst other
      exact hfaithful.conclude undecided holds
    · exact hfaithful.of_keep_eq (keep_conclude (by simpa using hother) holds)
  | @withdrawn other withdrawable =>
    by_cases hother : other = wanted
    · subst other
      exact faithful_withdraw withdrawable
    · obtain ⟨state, hfunc, -⟩ := exists_of_isWithdrawable withdrawable
      exact hfaithful.of_keep_eq (keep_withdraw hfunc (by simpa using hother))
  | extended effect => exact hfaithful.addEffect effect
  | marked same => rwa [← faithful_unmarked, same, faithful_unmarked]

/-- An attribute of a faithful function can be taken back exactly if it was inferred. -/
theorem Faithful.isWithdrawable_iff (hfaithful : declaration.Faithful wanted)
    (hfunc : declaration.asFunc? = some state) :
    declaration.isWithdrawable wanted = true ↔ wanted ∈ state.inferred := by
  rw [Declaration.isWithdrawable_iff hfunc]
  exact ⟨And.left, fun hinferred =>
    ⟨hinferred, (hfaithful.granted state hfunc hinferred).2.2.2⟩⟩

/-- An attribute that can be taken back holds. -/
theorem Faithful.status_eq (hfaithful : declaration.Faithful wanted)
    (hwithdrawable : declaration.isWithdrawable wanted = true) (config : Config) :
    declaration.status config wanted = .holds := by
  obtain ⟨state, hfunc, hinferred, -⟩ := exists_of_isWithdrawable hwithdrawable
  rw [status_eq_holds_iff, Attribute.holdsIn_iff]
  exact ⟨by simp [isFunction, hfunc], .inl (hfaithful.granted state hfunc hinferred).2.1⟩

end Declaration

namespace Arena

def guaranteeing (arena : Arena) (wanted : Attribute) : Set DeclId :=
  {id | ∃ declaration, arena.get id = .ok declaration ∧ declaration.isFunction = true ∧
    wanted.holdsIn declaration.storage = true}

def retractable (arena : Arena) (wanted : Attribute) : Set DeclId :=
  {id | ∃ declaration, arena.get id = .ok declaration ∧
    declaration.isWithdrawable wanted = true}

/-- The record of an attribute is right, and what was inferred is supported by the functions that
have the attribute at present.  The effects in `pending` are still to be checked. -/
structure Grounded (wanted : Attribute) (pending : Set (DeclId × Effect)) (arena : Arena) :
    Prop where
  faithful : ∀ id declaration, arena.get id = .ok declaration → declaration.Faithful wanted
  supported : ∀ id ∈ arena.retractable wanted, ∀ effect ∈ arena.effectsOf id,
    (id, effect) ∉ pending → arena.Allows wanted (arena.guaranteeing wanted) effect

variable {arena before after : Arena} {config : Config} {wanted : Attribute}
variable {id target : DeclId} {effect : Effect} {pending : Set (DeclId × Effect)}

theorem guaranteeing_eq (config : Config) :
    arena.guaranteeing wanted = arena.withStatus config wanted .holds := by
  simp only [guaranteeing, withStatus, Declaration.status_eq_holds_iff]

/-- Declarations stay faithful. -/
theorem Evolves.faithful (hevolves : Evolves config before after)
    (hfaithful : ∀ id declaration, before.get id = .ok declaration → declaration.Faithful wanted)
    (id : DeclId) (next : Declaration) (hnext : after.get id = .ok next) :
    next.Faithful wanted := by
  obtain ⟨declaration, hget⟩ : ∃ declaration, before.get id = .ok declaration :=
    exists_get ((lt_of_get hnext).trans_eq hevolves.size_eq)
  obtain ⟨found, hfound, hrevises⟩ := hevolves.revises id declaration hget
  obtain rfl : found = next := Except.ok.inj (hfound.symm.trans hnext)
  clear hfound hnext
  induction hrevises with
  | refl => exact hfaithful id declaration hget
  | tail _ hstep ih => exact hstep.faithful ih

namespace Grounded

/-- An arena in which nothing is recorded is grounded. -/
theorem of_isFresh (hfresh : ∀ declaration ∈ arena.declarations.toList, declaration.isFresh = true)
    (wanted : Attribute) : Grounded wanted ∅ arena where
  faithful id declaration hget :=
    Declaration.faithful_of_isFresh (hfresh declaration (mem_of_get hget))
  supported := by
    rintro id ⟨declaration, hget, hwithdrawable⟩
    rw [Declaration.isWithdrawable_of_isFresh (hfresh declaration (mem_of_get hget))]
      at hwithdrawable
    contradiction

variable (hgrounded : Grounded wanted pending before)

include hgrounded

/-- The attribute holds where it can be taken back. -/
theorem holds_of_retractable (config : Config) (hid : id ∈ before.retractable wanted) :
    id ∈ before.withStatus config wanted .holds := by
  obtain ⟨declaration, hget, hwithdrawable⟩ := hid
  exact ⟨declaration, hget, (hgrounded.faithful id declaration hget).status_eq hwithdrawable config⟩

/-- A change after which the attribute holds where it did keeps the arena grounded, if all that
could lose its support had support before. -/
theorem evolve {later : Set (DeclId × Effect)} (hevolves : Evolves config before after)
    (hholds : before.guaranteeing wanted ⊆ after.guaranteeing wanted)
    (hold : ∀ id ∈ after.retractable wanted, ∀ effect ∈ after.effectsOf id,
      (id, effect) ∉ later → id ∈ before.retractable wanted ∧ effect ∈ before.effectsOf id ∧
        (id, effect) ∉ pending) :
    Grounded wanted later after where
  faithful := hevolves.faithful hgrounded.faithful
  supported := by
    intro id hid effect heffect hchecked
    obtain ⟨hearlier, hbefore, hnot⟩ := hold id hid effect heffect hchecked
    rw [hevolves.allows_iff]
    exact (hgrounded.supported id hearlier effect hbefore hnot).mono hholds

/-- Only the record of the attribute matters. -/
theorem of_keep_eq (hkeep : after.keep {wanted} = before.keep {wanted}) :
    Grounded wanted pending after := by
  have hmem : wanted ∈ ({wanted} : Attributes) := by simp
  have hholds : after.guaranteeing wanted = before.guaranteeing wanted := by
    rw [guaranteeing_eq {}, guaranteeing_eq {}, withStatus_congr hkeep hmem]
  constructor
  case faithful =>
    intro id declaration hget
    obtain ⟨other, hother, hsame⟩ := exists_get_of_keep_eq hkeep hget
    exact (hgrounded.faithful id other hother).of_keep_eq hsame
  case supported =>
    rintro id ⟨declaration, hget, hwithdrawable⟩ effect heffect hchecked
    obtain ⟨other, hother, hsame⟩ := exists_get_of_keep_eq hkeep hget
    rw [← Declaration.isWithdrawable_keep hmem, hsame, Declaration.isWithdrawable_keep hmem]
      at hwithdrawable
    rw [effectsOf_congr hkeep] at heffect
    rw [allows_congr hkeep, hholds]
    exact hgrounded.supported id ⟨other, hother, hwithdrawable⟩ effect heffect hchecked

/-- More is learned. -/
theorem settle {other : Attribute} (hsettles : Settles config other before after) :
    Grounded wanted pending after := by
  by_cases hother : other ≠ wanted
  · exact hgrounded.of_keep_eq (hsettles.keep_eq (by simpa using hother))
  obtain rfl : other = wanted := Classical.not_not.mp hother
  have houtline := hsettles.keep_eq (FlagSet.not_mem_empty other)
  have hevolves : Evolves config before after :=
    (Learns.refl.step hsettles).grows.evolves
  have hfaithful := hevolves.faithful hgrounded.faithful
  refine ⟨hfaithful, ?_⟩
  rintro id ⟨declaration, hget, hwithdrawable⟩ effect heffect hchecked
  rw [effectsOf_congr houtline] at heffect
  rw [allows_congr houtline, guaranteeing_eq config]
  by_cases hundecided : id ∈ before.withStatus config other .undecided
  · have hholds : id ∈ after.withStatus config other .holds :=
      ⟨declaration, hget, (hfaithful id declaration hget).status_eq hwithdrawable config⟩
    exact hsettles.supports_of_granted hundecided hholds effect heffect
  · rw [hsettles.get_eq hundecided] at hget
    have hallows :=
      hgrounded.supported id ⟨declaration, hget, hwithdrawable⟩ effect heffect hchecked
    rw [guaranteeing_eq config] at hallows
    exact hallows.mono hsettles.holds_subset

theorem grow (hgrows : Grows config before after) : Grounded wanted pending after := by
  induction hgrows with
  | refl => exact hgrounded
  | tail _ hstep ih =>
    obtain ⟨other, hsettles⟩ := hstep
    exact ih.settle hsettles

/-- The attribute is taken back from a function and its callers. -/
theorem drop {dropped : List DeclId}
    (hretreats : Retreats config wanted target dropped before after)
    (hpending : ∀ entry ∈ pending, entry.1 = target) : Grounded wanted ∅ after := by
  have hwithdrawn := hretreats.withdrawn
  have hevolves : Evolves config before after := hwithdrawn.evolves
  refine ⟨hevolves.faithful hgrounded.faithful, ?_⟩
  rintro id ⟨declaration, hget, hwithdrawable⟩ effect heffect -
  have hkept : id ∉ dropped := hwithdrawn.notMem_of_isWithdrawable hget hwithdrawable
  rw [hwithdrawn.get_eq, if_neg hkept] at hget
  have hearlier : id ∈ before.retractable wanted := ⟨declaration, hget, hwithdrawable⟩
  rw [effectsOf_congr hwithdrawn.outline_eq] at heffect
  rw [allows_congr hwithdrawn.outline_eq, guaranteeing_eq config]
  have hallows := hgrounded.supported id hearlier effect heffect fun hmem => by
    have hroot : id = target := hpending _ hmem
    exact hkept (hroot ▸ hretreats.root_mem)
  rw [guaranteeing_eq config] at hallows
  refine hallows.of_callees fun callee hcallee hrelied => ?_
  refine hwithdrawn.mem_holds_iff.mpr ⟨fun hlost => hkept ?_, hrelied⟩
  exact hretreats.complete callee hlost id declaration hget hwithdrawable
    (hgrounded.holds_of_retractable config hearlier) ⟨effect, heffect, hcallee⟩

/-- The attribute is denied to an undecided function. -/
theorem refuse (hundecided : target ∈ before.withStatus config wanted .undecided)
    (hconclude : before.conclude wanted false [target] = .ok after) :
    Grounded wanted pending after := by
  have hevolves : Evolves config before after :=
    evolves_of_conclude (List.nodup_singleton target) (List.forall_mem_singleton.mpr hundecided)
      hconclude
  refine hgrounded.evolve hevolves ?_ ?_
  · intro id hid
    have hne : id ∉ [target] := by
      rw [List.mem_singleton]
      rintro rfl
      rw [guaranteeing_eq config] at hid
      exact absurd hid (notMem_withStatus hundecided)
    obtain ⟨declaration, hget, hholds⟩ := hid
    refine ⟨declaration, ?_, hholds⟩
    rw [get_of_conclude (List.nodup_singleton target) hconclude, if_neg hne, hget]
  · rintro id ⟨declaration, hget, hwithdrawable⟩ effect heffect hchecked
    rw [effectsOf_congr (keep_of_conclude (FlagSet.not_mem_empty wanted) hconclude)] at heffect
    refine ⟨?_, heffect, hchecked⟩
    rw [get_of_conclude (List.nodup_singleton target) hconclude] at hget
    split at hget
    · cases hearlier : before.get id with
      | error fault => simp [hearlier] at hget
      | ok earlier =>
        rw [hearlier, ok_map, Except.ok.injEq] at hget
        rw [← hget, Declaration.isWithdrawable_conclude_false] at hwithdrawable
        exact ⟨earlier, hearlier, hwithdrawable⟩
    · exact ⟨declaration, hget, hwithdrawable⟩

end Grounded

/-- A downgrade takes the attribute from all that it leaves without support. -/
theorem Grounded.downgrade {cause : Option Effect} {errors : List DeclError}
    (hgrounded : Grounded wanted ∅ before)
    (hdowngraded : Downgraded config wanted target cause before errors after) :
    Grounded wanted ∅ after := by
  cases hdowngraded with
  | dropped retreats => exact hgrounded.drop retreats (by simp)
  | refused undecided concluded => exact hgrounded.refuse undecided concluded
  | violated | settled | trusted => exact hgrounded

theorem effectsOf_of_marks (hmarks : Marks before after) (id : DeclId) :
    after.effectsOf id = before.effectsOf id := by
  have hunmarked : ∀ arena : Arena, arena.unmarked.effectsOf id = arena.effectsOf id := by
    intro arena
    simp only [effectsOf, get_unmarked]
    cases arena.get id with
    | error fault => rfl
    | ok found =>
      simp only [ok_map, Declaration.asFunc?_unmarked, Option.map_map]
      rfl
  rw [← hunmarked, hmarks, hunmarked]

/-- The mark of a closure supports nothing. -/
theorem Grounded.mark (hgrounded : Grounded wanted pending before) (hmarks : Marks before after) :
    Grounded wanted pending after := by
  have hevolves : Evolves {} before after := hmarks.evolves
  refine hgrounded.evolve hevolves ?_ ?_
  · rintro id ⟨declaration, hget, hisFunction, hholds⟩
    obtain ⟨next, hnext, hsame⟩ := hmarks.exists_get hget
    refine ⟨next, hnext, ?_, ?_⟩
    · rwa [← Declaration.isFunction_unmarked, hsame, Declaration.isFunction_unmarked]
    · rwa [← Declaration.storage_unmarked, hsame, Declaration.storage_unmarked]
  · rintro id ⟨next, hnext, hwithdrawable⟩ effect heffect hchecked
    obtain ⟨declaration, hget, hsame⟩ := hmarks.symm.exists_get hnext
    have hunmarked : ∀ found : Declaration,
        found.unmarked.isWithdrawable wanted = found.isWithdrawable wanted :=
      fun found => Declaration.isWithdrawable_mapFunc fun _ => rfl
    refine ⟨⟨declaration, hget, ?_⟩, ?_, hchecked⟩
    · rwa [← hunmarked, hsame, hunmarked]
    · rwa [effectsOf_of_marks hmarks] at heffect

/-- An effect that was added is still to be checked. -/
theorem Grounded.addEffect (hgrounded : Grounded wanted ∅ before)
    (hadd : before.modifyFunc target (·.addEffect effect) = .ok after) :
    Grounded wanted {(target, effect)} after := by
  have hevolves : Evolves {} before after := evolves_of_addEffect hadd
  refine hgrounded.evolve hevolves ?_ ?_
  · rintro id ⟨declaration, hget, hholds⟩
    by_cases hid : id = target
    · refine ⟨declaration.mapFunc (·.addEffect effect), ?_, by simpa using hholds⟩
      rw [get_of_modifyFunc hadd, if_pos hid, hget, ok_map]
    · refine ⟨declaration, ?_, hholds⟩
      rw [get_of_modifyFunc hadd, if_neg hid, hget]
  · rintro id ⟨declaration, hget, hwithdrawable⟩ other hother hchecked
    obtain ⟨earlier, hearlier, hsame⟩ := exists_get_of_modifyFunc hadd hget
    refine ⟨⟨earlier, hearlier, ?_⟩, ?_, by simp⟩
    · obtain rfl | rfl := hsame
      · exact hwithdrawable
      · have hkept : (earlier.mapFunc (·.addEffect effect)).isWithdrawable wanted =
            earlier.isWithdrawable wanted := Declaration.isWithdrawable_mapFunc fun _ => rfl
        rwa [hkept] at hwithdrawable
    · refine (mem_effectsOf_of_addEffect hadd hother).resolve_right ?_
      rintro ⟨rfl, rfl⟩
      exact hchecked rfl

/-- An effect that is fine is not pending any more. -/
theorem Grounded.discharge (hgrounded : Grounded wanted pending arena)
    (hpending : pending ⊆ {(target, effect)})
    (hfine : target ∈ arena.retractable wanted →
      arena.Allows wanted (arena.guaranteeing wanted) effect) : Grounded wanted ∅ arena where
  faithful := hgrounded.faithful
  supported := by
    intro id hid other hother _
    by_cases hmem : (id, other) ∈ pending
    · obtain ⟨rfl, rfl⟩ : id = target ∧ other = effect := by simpa using hpending hmem
      exact hfine hid
    · exact hgrounded.supported id hid other hother hmem

end Arena

namespace Operation

/-- The function to the body of which an operation may add an effect, by the name that it uses. -/
def extended? : Operation → Option DeclId
  | .recordEffect function _ | .checkClosure function => some function
  | .infer _ _ | .inferAll _ | .verify _ | .downgrade _ _ _ => none

/-- The operation adds effects only to functions that are no other names for others. -/
def IsDirect (arena : Arena) (operation : Operation) : Prop :=
  ∀ function, operation.extended? = some function → ∃ target,
    arena.aliasedFunction function = .ok target ∧ arena.aliasedFunction target = .ok target

end Operation

namespace Session

open Arena

variable {session after : Session} {config : Config} {wanted : Attribute}
variable {target : DeclId} {effect : Effect} {pending : Set (DeclId × Effect)}

/-- The check of the attribute against the pending effect. -/
theorem Checked.grounded (hchecked : session.Checked config target target effect wanted after)
    (hgrounded : Grounded wanted pending session.arena)
    (hpending : pending ⊆ {(target, effect)}) : Grounded wanted ∅ after.arena := by
  cases hchecked with
  | unneeded lacks =>
    exact hgrounded.discharge hpending fun hmem =>
      absurd (hgrounded.holds_of_retractable config hmem) lacks
  | fine holds answered =>
    refine (hgrounded.grow answered.learns.grows).discharge hpending fun _ => ?_
    rw [guaranteeing_eq config]
    exact answered.learns.allows_iff.mpr (answered.sound rfl)
  | @broken middle errors arena holds answered downgraded =>
    have hlearned := hgrounded.grow answered.learns.grows
    have hheld := answered.learns.holds_subset holds
    have hkept : (∀ declaration, middle.arena.get target = .ok declaration →
        declaration.isWithdrawable wanted = false) → target ∉ middle.arena.retractable wanted := by
      rintro hkept ⟨declaration, hget, hwithdrawable⟩
      rw [hkept declaration hget] at hwithdrawable
      contradiction
    cases downgraded with
    | dropped retreats =>
      refine hlearned.drop retreats fun entry hentry => ?_
      rw [hpending hentry]
    | refused undecided => exact absurd hheld (notMem_withStatus undecided)
    | violated _ written =>
      exact hlearned.discharge hpending fun hmem => absurd hmem (hkept written)
    | settled fails => exact absurd hheld (notMem_withStatus fails)
    | trusted safety get_eq mem =>
      refine hlearned.discharge hpending fun hmem => absurd hmem (hkept fun found hfound => ?_)
      obtain rfl := Except.ok.inj (get_eq.symm.trans hfound)
      exact Declaration.isWithdrawable_of_trusted safety mem

/-- Once all attributes were checked nothing is pending. -/
theorem CheckedEach.grounded {attributes : List Attribute}
    (hchecked : session.CheckedEach config target target effect attributes after)
    (hgrounded : Grounded wanted pending session.arena)
    (hpending : pending ⊆ {(target, effect)}) (hwanted : pending = ∅ ∨ wanted ∈ attributes) :
    Grounded wanted ∅ after.arena := by
  induction hchecked generalizing pending with
  | nil => simpa [hwanted.resolve_right (by simp)] using hgrounded
  | @cons other attributes before middle after checked _ ih =>
    by_cases hother : other = wanted
    · subst hother
      exact ih (checked.grounded hgrounded hpending) (by simp) (.inl rfl)
    · have hnext := hgrounded.of_keep_eq (checked.keep_eq (by simpa using hother))
      refine ih hnext hpending (hwanted.imp_right fun hmember => ?_)
      exact (List.mem_cons.mp hmember).resolve_left (Ne.symm hother)

/-- An effect that is recorded on a function that is no other name for another one. -/
theorem Recorded.grounded (hrecorded : session.Recorded config target target effect after)
    (hgrounded : Grounded wanted ∅ session.arena) : Grounded wanted ∅ after.arena := by
  cases hrecorded with
  | ignored => exact hgrounded
  | checked _ _ added checked =>
    exact checked.grounded (hgrounded.addEffect added) (fun _ => id) (.inr (Flag.mem_all wanted))

/-- Every operation keeps the arena grounded. -/
theorem Performed.grounded {operation : Operation}
    (hperformed : session.Performed config operation after)
    (hdirect : operation.IsDirect session.arena) (hgrounded : Grounded wanted ∅ session.arena) :
    Grounded wanted ∅ after.arena := by
  have hfinal : ∀ {function target final : DeclId}, operation.extended? = some function →
      session.arena.aliasedFunction function = .ok target →
      session.arena.aliasedFunction target = .ok final → final = target := by
    intro function target final hextended htarget hfinal
    obtain ⟨named, hnamed, hself⟩ := hdirect function hextended
    obtain rfl : target = named := Except.ok.inj (htarget.symm.trans hnamed)
    exact Except.ok.inj (hfinal.symm.trans hself)
  cases hperformed with
  | queried _ follows => exact hgrounded.grow follows.grows
  | @downgraded function target other cause errors arena _ downgraded =>
    by_cases hother : other = wanted
    · subst other
      exact hgrounded.downgrade downgraded
    · exact hgrounded.of_keep_eq (downgraded.keep_eq (by simpa using hother))
  | recorded target_eq final_eq recorded =>
    obtain rfl := hfinal rfl target_eq final_eq
    exact recorded.grounded hgrounded
  | closureChecked checked =>
    cases checked with
    | unneeded marks => exact hgrounded.mark marks
    | needed marks target_eq final_eq recorded =>
      obtain rfl := hfinal rfl target_eq final_eq
      exact recorded.grounded (hgrounded.mark marks)

/-- So does every run. -/
theorem run_grounded (config : Config) (hidle : session.Idle) {operations : List Operation}
    (hhandles : ∀ operation ∈ operations, ∀ handle ∈ operation.handles,
      handle.number < session.arena.size)
    (hdirect : ∀ operation ∈ operations, operation.IsDirect session.arena)
    (hgrounded : ∀ wanted, Grounded wanted ∅ session.arena) :
    ∃ after, session.run config operations = .ok after ∧
      ∀ wanted, Grounded wanted ∅ after.arena := by
  induction operations generalizing session with
  | nil => exact ⟨session, rfl, hgrounded⟩
  | cons operation operations ih =>
    obtain ⟨middle, hperform, hmiddle, hperformed⟩ := exists_performed config hidle
      (hhandles operation List.mem_cons_self)
    have hevolves := hperformed.evolves
    have hnext : ∀ other ∈ operations, other.IsDirect middle.arena := by
      intro other hother function hextended
      simp only [hevolves.aliasedFunction_eq]
      exact hdirect other (List.mem_cons_of_mem operation hother) function hextended
    obtain ⟨after, hrest, hafter⟩ := ih hmiddle
      (by
        rw [hevolves.size_eq]
        exact fun other hother => hhandles other (List.mem_cons_of_mem operation hother))
      hnext
      fun wanted => hperformed.grounded (hdirect operation List.mem_cons_self) (hgrounded wanted)
    exact ⟨after, by rw [run_cons, hperform, ok_bind, hrest], hafter⟩

/-- Whatever happens, the record of inferred attributes can be trusted.  A function with an inferred
attribute has it settled, carries it, and has a body in which no effect breaks it, and what was
settled without being inferred does not hold.  Effects have to be recorded under names that lead out
of all cycles of function aliases. -/
theorem run_inferred_supported (config : Config) {arena : Arena} (hclosed : arena.Closed)
    (hfresh : ∀ declaration ∈ arena.declarations.toList, declaration.isFresh = true)
    {operations : List Operation}
    (hhandles : ∀ operation ∈ operations, ∀ handle ∈ operation.handles,
      handle.number < arena.size)
    (hdirect : ∀ operation ∈ operations, operation.IsDirect arena) :
    ∃ session, run config { arena } operations = .ok session ∧
      ∀ id declaration state wanted, session.arena.get id = .ok declaration →
        declaration.asFunc? = some state →
        (wanted ∈ state.inferred →
          wanted ∈ state.concluded ∧ wanted.flag ∈ declaration.storage ∧
            state.body.isSome = true ∧ ∀ effect ∈ state.effects,
              session.arena.Allows wanted (session.arena.guaranteeing wanted) effect) ∧
        (wanted ∈ state.concluded → wanted ∉ state.inferred →
          wanted.holdsIn declaration.storage = false) := by
  have hidle : Session.Idle { arena } := ⟨rfl, hclosed⟩
  obtain ⟨session, hrun, hgrounded⟩ := run_grounded config hidle hhandles hdirect
    (Grounded.of_isFresh hfresh)
  refine ⟨session, hrun, fun id declaration state wanted hget hfunc => ?_⟩
  have hfaithful := (hgrounded wanted).faithful id declaration hget
  refine ⟨fun hinferred => ?_, hfaithful.denied state hfunc⟩
  obtain ⟨hconcluded, hflag, hbody, -⟩ := hfaithful.granted state hfunc hinferred
  refine ⟨hconcluded, hflag, hbody, fun effect heffect => ?_⟩
  rw [← effectsOf_of_get hget hfunc] at heffect
  exact (hgrounded wanted).supported id
    ⟨declaration, hget, (hfaithful.isWithdrawable_iff hfunc).mpr hinferred⟩ effect heffect (by simp)

theorem run_inferred_supported_caller :
    caller.Closed ∧
    (∀ declaration ∈ caller.declarations.toList, declaration.isFresh = true) ∧
    ∃ session, run {} { arena := caller } [.infer ⟨0⟩ .nothrow, .infer ⟨0⟩ .nogc,
        .recordEffect ⟨1⟩ (.throwing .synthetic), .checkClosure ⟨0⟩] = .ok session ∧
      ∀ id declaration state wanted, session.arena.get id = .ok declaration →
        declaration.asFunc? = some state →
        (wanted ∈ state.inferred →
          wanted ∈ state.concluded ∧ wanted.flag ∈ declaration.storage ∧
            state.body.isSome = true ∧ ∀ effect ∈ state.effects,
              session.arena.Allows wanted (session.arena.guaranteeing wanted) effect) ∧
        (wanted ∈ state.concluded → wanted ∉ state.inferred →
          wanted.holdsIn declaration.storage = false) := by
  have hclosed : caller.Closed := by decide
  have hfresh : ∀ declaration ∈ caller.declarations.toList, declaration.isFresh = true := by decide
  have hdirect : ∀ operation ∈ [Operation.infer ⟨0⟩ .nothrow, .infer ⟨0⟩ .nogc,
      .recordEffect ⟨1⟩ (.throwing .synthetic), .checkClosure ⟨0⟩],
      operation.IsDirect caller := by
    simp only [List.forall_mem_cons, List.not_mem_nil, false_implies, implies_true, and_true]
    refine ⟨nofun, nofun, ?_, ?_⟩
    all_goals
      rintro function ⟨⟩
      exact ⟨_, rfl, rfl⟩
  exact ⟨hclosed, hfresh, run_inferred_supported {} hclosed hfresh (by decide) hdirect⟩

/-- With function aliases in a cycle an effect goes to one function and the downgrade to another, so
a function that may throw keeps the attribute. -/
theorem run_inferred_unsupported_mutualAliases :
    mutualAliases.Closed ∧
    (∀ declaration ∈ mutualAliases.declarations.toList, declaration.isFresh = true) ∧
    ∃ session declaration state, run {} { arena := mutualAliases }
        [.infer ⟨0⟩ .nothrow, .recordEffect ⟨0⟩ (.throwing .synthetic)] = .ok session ∧
      session.arena.get ⟨1⟩ = .ok declaration ∧ declaration.asFunc? = some state ∧
      .nothrow ∈ state.inferred ∧ .throwing .synthetic ∈ state.effects ∧
      ¬session.arena.Allows .nothrow (session.arena.guaranteeing .nothrow)
        (.throwing .synthetic) := by
  refine ⟨by decide, by decide, _, _, _, rfl, rfl, rfl, by decide, by decide, ?_⟩
  simp [Allows, Effect.callee?, breaksDirectly]

end Session

end Declarations
