import Declarations.Proofs.Inference.Evolution

/-!
# Rejections are final

An attribute is rejected when inference answers that it does not hold, or when it is downgraded
without a violation.  No later operation brings it back, not even further effects.  There is one
exception: a function that could be looked into if it had a body is not settled by a rejection, and
the first effect that is recorded gives it a body.
-/

namespace Declarations

open Relation

def Func.givenBody (function : Func) : Func :=
  { function with body := some (function.body.getD {}) }

namespace Declaration

/-- The declaration with a body if it is a function. -/
def givenBody (declaration : Declaration) : Declaration :=
  declaration.mapFunc Func.givenBody

/-- The attribute does not hold, and with a body it would not even be undecided. -/
def IsDenied (config : Config) (wanted : Attribute) (declaration : Declaration) : Prop :=
  declaration.givenBody.status config wanted = .fails

/-- The attribute does not hold just because there is no body. -/
def AwaitsBody (config : Config) (wanted : Attribute) (declaration : Declaration) : Prop :=
  declaration.status config wanted = .fails ∧
    declaration.givenBody.status config wanted = .undecided

variable {declaration next : Declaration} {state : Func} {config : Config} {wanted : Attribute}

/-! ## Giving a body -/

theorem keep_givenBody {kept : Attributes} :
    declaration.givenBody.keep kept = (declaration.keep kept).givenBody := by
  cases hfunc : declaration.asFunc? with
  | none =>
    rw [givenBody, mapFunc_of_asFunc?_eq_none hfunc, keep_of_asFunc?_eq_none hfunc, givenBody,
      mapFunc_of_asFunc?_eq_none hfunc]
  | some state =>
    have hkept : (declaration.keep kept).asFunc? = some (state.keep kept) := by
      rw [asFunc?_keep, hfunc, Option.map_some]
    have hgiven : declaration.givenBody.asFunc? = some state.givenBody := by
      rw [givenBody, asFunc?_mapFunc, hfunc, Option.map_some]
    rw [keep_of_asFunc? hgiven, givenBody, mapFunc_of_asFunc? hfunc, givenBody,
      mapFunc_of_asFunc? hkept, keep_of_asFunc? hfunc]
    rfl

theorem withdraw_givenBody (hfunc : declaration.asFunc? = some state) :
    declaration.givenBody.withdraw wanted = (declaration.withdraw wanted).givenBody := by
  have hgiven : declaration.givenBody.asFunc? = some state.givenBody := by
    rw [givenBody, asFunc?_mapFunc, hfunc, Option.map_some]
  rw [withdraw_of_asFunc? hgiven, givenBody, mapFunc_of_asFunc? hfunc, givenBody,
    mapFunc_of_asFunc? (asFunc?_withdraw hfunc), withdraw_of_asFunc? hfunc]
  rfl

/-- The status of a function that has a body is not changed by giving it one. -/
theorem status_givenBody (hbody : ∀ state, declaration.asFunc? = some state →
      state.body.isSome = true) :
    declaration.givenBody.status config wanted = declaration.status config wanted :=
  status_mapFunc (fun _ => rfl) (fun _ => rfl) (fun _ => rfl) fun state hfunc =>
    (hbody state hfunc).symm

theorem status_givenBody_eq_holds_iff :
    declaration.givenBody.status config wanted = .holds ↔
      declaration.status config wanted = .holds := by
  simp [status_eq_holds_iff, givenBody]

/-- An undecided function has a body. -/
theorem isSome_body_of_undecided (hstatus : declaration.status config wanted = .undecided)
    (hfunc : declaration.asFunc? = some state) : state.body.isSome = true := by
  obtain ⟨found, hfound, -, -, -, htransparent, -⟩ := exists_of_status_undecided hstatus
  rw [hfunc, Option.some.injEq] at hfound
  subst hfound
  simp only [isTransparent, Bool.and_eq_true] at htransparent
  exact htransparent.1.2

/-- What is denied does not hold. -/
theorem IsDenied.status_eq (hdenied : declaration.IsDenied config wanted) :
    declaration.status config wanted = .fails := by
  cases hstatus : declaration.status config wanted with
  | fails => rfl
  | holds =>
    have := hdenied.symm.trans (status_givenBody_eq_holds_iff.mpr hstatus)
    contradiction
  | undecided =>
    have hsame : declaration.givenBody.status config wanted = declaration.status config wanted :=
      status_givenBody fun state => isSome_body_of_undecided hstatus
    rw [hstatus, hdenied] at hsame
    contradiction

/-- With a body, a declaration is denied an attribute as soon as the attribute does not hold. -/
theorem isDenied_of_body (hstatus : declaration.status config wanted = .fails)
    (hbody : ∀ state, declaration.asFunc? = some state → state.body.isSome = true) :
    declaration.IsDenied config wanted :=
  (status_givenBody hbody).trans hstatus

/-- So it is without a body if a body is not all that it lacks. -/
theorem isDenied_of_not_awaitsBody (hstatus : declaration.status config wanted = .fails)
    (hbody : ¬declaration.AwaitsBody config wanted) : declaration.IsDenied config wanted := by
  cases hgiven : declaration.givenBody.status config wanted with
  | fails => exact hgiven
  | holds =>
    rw [status_givenBody_eq_holds_iff, hstatus] at hgiven
    contradiction
  | undecided => exact absurd ⟨hstatus, hgiven⟩ hbody

/-! ## What changes preserve -/

/-- The mark of a closure has no part in what is known about attributes. -/
theorem status_unmarked :
    declaration.unmarked.status config wanted = declaration.status config wanted :=
  status_mapFunc (fun _ => rfl) (fun _ => rfl) (fun _ => rfl) fun _ _ => rfl

theorem isDenied_of_keep_eq (hkeep : next.keep {wanted} = declaration.keep {wanted})
    (hdenied : declaration.IsDenied config wanted) : next.IsDenied config wanted := by
  have hmem : wanted ∈ ({wanted} : Attributes) := by simp
  unfold IsDenied at *
  rw [← status_keep hmem, keep_givenBody, hkeep, ← keep_givenBody, status_keep hmem, hdenied]

theorem remembers_of_keep_eq (hkeep : next.keep {wanted} = declaration.keep {wanted})
    (hremembers : declaration.Remembers wanted) : next.Remembers wanted := by
  have hmem : wanted ∈ ({wanted} : Attributes) := by simp
  rwa [← remembers_keep hmem, hkeep, remembers_keep hmem]

theorem remembers_unmarked :
    declaration.unmarked.Remembers wanted ↔ declaration.Remembers wanted := by
  unfold Remembers unmarked
  rw [asFunc?_mapFunc]
  cases declaration.asFunc? <;> simp [Func.unmarked]

/-- What is taken back is denied for good. -/
theorem isDenied_withdraw (hremembers : declaration.Remembers wanted)
    (hwithdrawable : declaration.isWithdrawable wanted = true) :
    (declaration.withdraw wanted).IsDenied config wanted := by
  obtain ⟨state, hfunc, -⟩ := exists_of_isWithdrawable hwithdrawable
  unfold IsDenied
  rw [← withdraw_givenBody hfunc]
  have hsame : declaration.givenBody.isWithdrawable wanted = declaration.isWithdrawable wanted :=
    isWithdrawable_mapFunc fun _ => rfl
  exact status_withdraw (hremembers.mapFunc (fun _ => rfl) fun _ => rfl) (hsame.trans hwithdrawable)

/-- Inferred attributes go on to be recorded as settled. -/
theorem Revises.remembers (hrevises : Revises config declaration next)
    (hremembers : declaration.Remembers wanted) : next.Remembers wanted := by
  cases hrevises with
  | @concluded other holds undecided =>
    by_cases hother : other = wanted
    · rw [hother]
      exact remembers_conclude declaration wanted holds
    · exact remembers_of_keep_eq (keep_conclude (by simpa using hother) holds) hremembers
  | @withdrawn other withdrawable =>
    obtain ⟨state, hfunc, -⟩ := exists_of_isWithdrawable withdrawable
    by_cases hother : other = wanted
    · rw [hother]
      exact remembers_withdraw hfunc
    · exact remembers_of_keep_eq (keep_withdraw hfunc (by simpa using hother)) hremembers
  | extended effect => exact hremembers.mapFunc (fun _ => rfl) fun _ => rfl
  | marked same => rwa [← remembers_unmarked, same, remembers_unmarked]

/-- What is denied goes on to be denied. -/
theorem Revises.isDenied (hrevises : Revises config declaration next)
    (hremembers : declaration.Remembers wanted) (hdenied : declaration.IsDenied config wanted) :
    next.IsDenied config wanted := by
  cases hrevises with
  | @concluded other holds undecided =>
    by_cases hother : other = wanted
    · rw [hother, hdenied.status_eq] at undecided
      contradiction
    · exact isDenied_of_keep_eq (keep_conclude (by simpa using hother) holds) hdenied
  | @withdrawn other withdrawable =>
    obtain ⟨state, hfunc, -⟩ := exists_of_isWithdrawable withdrawable
    by_cases hother : other = wanted
    · rw [hother] at withdrawable ⊢
      exact isDenied_withdraw hremembers withdrawable
    · exact isDenied_of_keep_eq (keep_withdraw hfunc (by simpa using hother)) hdenied
  | extended effect =>
    have hsame : (declaration.mapFunc (·.addEffect effect)).givenBody =
        declaration.givenBody.mapFunc (·.addEffect effect) := by
      rw [givenBody, givenBody, mapFunc_mapFunc, mapFunc_mapFunc]
      rfl
    unfold IsDenied
    rw [hsame, status_mapFunc_addEffect, hdenied]
    intro state hstate
    rw [givenBody, asFunc?_mapFunc, Option.map_eq_some_iff] at hstate
    obtain ⟨-, -, rfl⟩ := hstate
    rfl
  | marked same =>
    have hsame : ∀ found : Declaration, found.givenBody.unmarked = found.unmarked.givenBody := by
      intro found
      rw [givenBody, givenBody, unmarked, unmarked, mapFunc_mapFunc, mapFunc_mapFunc]
      rfl
    unfold IsDenied
    rw [← status_unmarked, hsame, same, ← hsame, status_unmarked, hdenied]

theorem remembers_of_revises (hrevises : ReflTransGen (Revises config) declaration next)
    (hremembers : declaration.Remembers wanted) : next.Remembers wanted := by
  induction hrevises with
  | refl => exact hremembers
  | tail _ hstep ih => exact hstep.remembers ih

theorem isDenied_of_revises (hrevises : ReflTransGen (Revises config) declaration next)
    (hremembers : declaration.Remembers wanted) (hdenied : declaration.IsDenied config wanted) :
    next.IsDenied config wanted := by
  induction hrevises with
  | refl => exact hdenied
  | tail hsteps hstep ih => exact hstep.isDenied (remembers_of_revises hsteps hremembers) ih

end Declaration

namespace Session

open Arena

variable {session next : Session} {config : Config} {wanted : Attribute}
variable {function target : DeclId} {declaration : Declaration}

/-- An operation rejects an attribute: inference answers that it does not hold, or a downgrade finds
it not written in the source and not the safety of a trusted function. -/
inductive Rejects (config : Config) (wanted : Attribute) (function : DeclId) (session : Session) :
    Session → Prop where
  | answer {next : Session}
      (infer_eq : session.infer config function wanted = .ok (false, next)) :
      Rejects config wanted function session next
  | downgrade {target : DeclId} {declaration : Declaration} {cause : Option Effect}
      {errors : List DeclError} {arena : Arena}
      (alias_eq : session.arena.aliasedFunction function = .ok target)
      (get_eq : session.arena.get target = .ok declaration)
      (untrusted : ¬(wanted = .safety ∧ .trusted ∈ declaration.storage))
      (downgrade_eq : session.arena.downgrade config function wanted cause = .ok (errors, arena))
      (unviolated : ∀ reason, .attributeViolation target wanted reason ∉ errors) :
      Rejects config wanted function session { session with arena }

/-- An answer in the negative denies the attribute, unless just a body is missing. -/
theorem Answered.isDenied (hanswered : Answered config wanted session (target ∈ ·) false next)
    (hget : session.arena.get target = .ok declaration)
    (hremembers : declaration.Remembers wanted) (hbody : ¬declaration.AwaitsBody config wanted)
    {found : Declaration} (hfound : next.arena.get target = .ok found) :
    found.IsDenied config wanted := by
  have hstatus := mem_withStatus_iff_of_get hget config wanted
  obtain ⟨later, hlater, hrevises⟩ :=
    hanswered.learns.grows.evolves.revises target declaration hget
  obtain rfl : later = found := Except.ok.inj (hlater.symm.trans hfound)
  have hnot : target ∉ next.arena.withStatus config wanted .holds ∪
      next.arena.withStatus config wanted .undecided := hanswered.broken rfl
  cases hknown : declaration.status config wanted with
  | holds =>
    exact absurd (.inl (hanswered.learns.holds_subset ((hstatus .holds).mpr hknown))) hnot
  | fails =>
    exact Declaration.isDenied_of_revises hrevises hremembers
      (Declaration.isDenied_of_not_awaitsBody hknown hbody)
  | undecided =>
    have hsome : session.arena.HasBody target := by
      intro current state hcurrent hfunc
      obtain rfl : current = declaration := Except.ok.inj (hcurrent.symm.trans hget)
      exact Declaration.isSome_body_of_undecided hknown hfunc
    have hlaterBody := hasBody_of_keep_eq hanswered.learns.outline_eq hsome
    refine Declaration.isDenied_of_body ?_ fun state => hlaterBody later state hlater
    have hlaterStatus := mem_withStatus_iff_of_get hlater config wanted
    rw [Set.mem_union, hlaterStatus, hlaterStatus] at hnot
    cases hfinal : later.status config wanted <;> simp_all

/-- So does a downgrade that is no violation. -/
theorem isDenied_of_downgraded {cause : Option Effect} {errors : List DeclError} {after : Arena}
    (hdowngraded : Downgraded config wanted target cause session.arena errors after)
    (huntrusted : ¬(wanted = .safety ∧ .trusted ∈ declaration.storage))
    (hunviolated : ∀ reason, .attributeViolation target wanted reason ∉ errors)
    (hget : session.arena.get target = .ok declaration)
    (hremembers : declaration.Remembers wanted) (hbody : ¬declaration.AwaitsBody config wanted)
    {found : Declaration} (hfound : after.get target = .ok found) :
    found.IsDenied config wanted := by
  have hstatus := mem_withStatus_iff_of_get hget config wanted
  cases hdowngraded with
  | dropped retreats =>
    obtain ⟨earlier, hearlier, hwithdrawable⟩ :=
      retreats.withdrawn.withdrawable target retreats.root_mem
    obtain rfl : declaration = earlier := Except.ok.inj (hget.symm.trans hearlier)
    rw [retreats.withdrawn.get_eq, if_pos retreats.root_mem, hget, ok_map,
      Except.ok.injEq] at hfound
    rw [← hfound]
    exact Declaration.isDenied_withdraw hremembers hwithdrawable
  | refused undecided concluded =>
    have hknown := (hstatus .undecided).mp undecided
    rw [get_of_conclude (List.nodup_singleton target) concluded, if_pos List.mem_cons_self, hget,
      ok_map, Except.ok.injEq] at hfound
    rw [← hfound]
    refine Declaration.isDenied_of_body (Declaration.status_conclude hknown false) ?_
    obtain ⟨state, hfunc, -⟩ := Declaration.exists_of_status_undecided hknown
    have hsome := Declaration.isSome_body_of_undecided hknown hfunc
    intro settled hsettled
    rw [Declaration.asFunc?_conclude hfunc, Option.some.injEq] at hsettled
    rwa [← hsettled]
  | violated => exact absurd List.mem_cons_self (hunviolated cause)
  | settled fails =>
    obtain rfl : declaration = found := Except.ok.inj (hget.symm.trans hfound)
    exact Declaration.isDenied_of_not_awaitsBody ((hstatus .fails).mp fails) hbody
  | @trusted current safety current_get mem =>
    obtain rfl : declaration = current := Except.ok.inj (hget.symm.trans current_get)
    exact absurd ⟨safety, mem⟩ huntrusted

/-- After a rejection the attribute is denied, unless just a body is missing. -/
theorem Rejects.isDenied (hrejects : Rejects config wanted function session next)
    (hidle : session.Idle) (hfunction : function.number < session.arena.size)
    (halias : session.arena.aliasedFunction function = .ok target)
    (hget : session.arena.get target = .ok declaration)
    (hremembers : declaration.Remembers wanted)
    (hbody : ¬declaration.AwaitsBody config wanted) :
    next.Idle ∧ Evolves config session.arena next.arena ∧
      ∀ found, next.arena.get target = .ok found → found.IsDenied config wanted := by
  cases hrejects with
  | answer infer_eq =>
    obtain ⟨named, holds, after, hnamed, -, hinfer, hanswered⟩ :=
      infer_answered config wanted hidle hfunction
    rw [infer_eq, Except.ok.injEq, Prod.mk.injEq] at hinfer
    obtain ⟨rfl, rfl⟩ := hinfer
    obtain rfl : target = named := Except.ok.inj (halias.symm.trans hnamed)
    exact ⟨hanswered.idle, hanswered.learns.grows.evolves,
      fun _ => hanswered.isDenied hget hremembers hbody⟩
  | @downgrade named current cause errors arena alias_eq get_eq untrusted downgrade_eq unviolated =>
    obtain ⟨other, errors', arena', hother, -, hdowngrade, hdowngraded⟩ :=
      exists_downgraded config wanted hidle.closed hfunction cause
    rw [downgrade_eq, Except.ok.injEq, Prod.mk.injEq] at hdowngrade
    obtain ⟨rfl, rfl⟩ := hdowngrade
    obtain rfl : target = other := Except.ok.inj (halias.symm.trans hother)
    obtain rfl : target = named := Except.ok.inj (halias.symm.trans alias_eq)
    obtain rfl : declaration = current := Except.ok.inj (hget.symm.trans get_eq)
    refine ⟨⟨hidle.stack_eq, closed_of_keep_eq hdowngraded.outline_eq hidle.closed⟩,
      hdowngraded.evolves, fun _ => ?_⟩
    exact isDenied_of_downgraded hdowngraded untrusted unviolated hget hremembers hbody

/-- What is denied is answered in the negative. -/
theorem infer_of_isDenied (hidle : session.Idle) (hfunction : function.number < session.arena.size)
    (halias : session.arena.aliasedFunction function = .ok target)
    (hget : session.arena.get target = .ok declaration)
    (hdenied : declaration.IsDenied config wanted) :
    ∃ after, session.infer config function wanted = .ok (false, after) := by
  obtain ⟨named, holds, after, hnamed, -, hinfer, hanswered⟩ :=
    infer_answered config wanted hidle hfunction
  obtain rfl : target = named := Except.ok.inj (halias.symm.trans hnamed)
  refine ⟨after, ?_⟩
  have hstatus := mem_withStatus_iff_of_get hget config wanted
  have hfails := (hstatus .fails).mpr hdenied.status_eq
  have hholds : ¬holds = true := by
    rw [hanswered.holds_iff fun hsubset hmem => hsubset hmem]
    intro hentitled
    obtain hheld | hundecided := entitled_subset hentitled
    · exact absurd hheld (notMem_withStatus hfails)
    · exact absurd hundecided (notMem_withStatus hfails)
  rw [hinfer, Bool.not_eq_true _ |>.mp hholds]

/-- Once an attribute is rejected for a function that does not merely lack a body, no later answer
of the run is that it holds.  Inferred attributes have to be recorded as settled when the run
begins. -/
theorem infer_after_rejection (config : Config) (wanted : Attribute)
    (earlier later : List Operation) {arena : Arena} (hclosed : arena.Closed)
    (hremembers : ∀ declaration ∈ arena.declarations.toList, declaration.Remembers wanted)
    (hearlier : ∀ operation ∈ earlier, ∀ handle ∈ operation.handles, handle.number < arena.size)
    (hlater : ∀ operation ∈ later, ∀ handle ∈ operation.handles, handle.number < arena.size)
    (hfunction : function.number < arena.size) :
    ∃ session target declaration, run config { arena } earlier = .ok session ∧
      session.arena.aliasedFunction function = .ok target ∧
      session.arena.get target = .ok declaration ∧
      ∀ next, session.Rejects config wanted function next →
        ¬declaration.AwaitsBody config wanted →
        ∃ last after, next.run config later = .ok last ∧
          last.infer config function wanted = .ok (false, after) := by
  have hidle : Session.Idle { arena } := ⟨rfl, hclosed⟩
  obtain ⟨session, hrun, hsession, hfirst⟩ := run_evolves config hidle hearlier
  have hbound : function.number < session.arena.size := by rwa [hfirst.size_eq]
  obtain ⟨target, halias, htarget⟩ := hsession.closed.aliasedFunction hbound
  obtain ⟨declaration, hget⟩ := exists_get htarget
  refine ⟨session, target, declaration, hrun, halias, hget, fun next hrejects hbody => ?_⟩
  -- The record of inferred attributes is complete when the attribute is rejected.
  obtain ⟨start, hstart⟩ : ∃ start, arena.get target = .ok start :=
    exists_get (by rwa [hfirst.size_eq] at htarget)
  obtain ⟨current, hcurrent, hrevises⟩ := hfirst.revises target start hstart
  obtain rfl : declaration = current := Except.ok.inj (hget.symm.trans hcurrent)
  have hrecorded := Declaration.remembers_of_revises hrevises (hremembers start (mem_of_get hstart))
  obtain ⟨hnext, hsecond, hdenied⟩ :=
    hrejects.isDenied hsession hbound halias hget hrecorded hbody
  have hsize : next.arena.size = arena.size := hsecond.size_eq.trans hfirst.size_eq
  obtain ⟨last, hrest, hlast, hthird⟩ : ∃ last, next.run config later = .ok last ∧ last.Idle ∧
      Evolves config next.arena last.arena :=
    run_evolves config hnext (by rwa [hsize])
  have hboth := hsecond.trans hthird
  obtain ⟨rejected, hrejected, hchanged⟩ := hsecond.revises target declaration hget
  obtain ⟨final, hfinal, hfinally⟩ := hthird.revises target rejected hrejected
  have hfinalDenied := Declaration.isDenied_of_revises hfinally
    (Declaration.remembers_of_revises hchanged hrecorded) (hdenied rejected hrejected)
  obtain ⟨after, hinfer⟩ : ∃ after, last.infer config function wanted = .ok (false, after) :=
    infer_of_isDenied hlast (by rwa [hboth.size_eq])
      (by rw [hboth.aliasedFunction_eq, halias]) hfinal hfinalDenied
  exact ⟨last, after, hrest, hinfer⟩

def thrower : Arena where
  declarations := #[.ofBody [.throwing .synthetic]]

theorem infer_after_rejection_thrower :
    thrower.Closed ∧
    ∃ next last after, infer {} { arena := thrower } ⟨0⟩ .nothrow = .ok (false, next) ∧
      next.run {} [.recordEffect ⟨0⟩ (.gcAllocation .synthetic), .checkClosure ⟨0⟩] = .ok last ∧
      last.infer {} ⟨0⟩ .nothrow = .ok (false, after) := by
  have hclosed : thrower.Closed := by decide
  have hremembers : ∀ declaration ∈ thrower.declarations.toList,
      declaration.Remembers .nothrow := by
    intro declaration hmem state hfunc hinferred
    cases List.mem_singleton.mp hmem
    cases hfunc
    simp at hinferred
  obtain ⟨next, hinfer⟩ : ∃ next,
      infer {} { arena := thrower } ⟨0⟩ .nothrow = .ok (false, next) := ⟨_, rfl⟩
  obtain ⟨session, target, declaration, hrun, halias, hget, hfinal⟩ :=
    infer_after_rejection {} .nothrow []
      [.recordEffect ⟨0⟩ (.gcAllocation .synthetic), .checkClosure ⟨0⟩] hclosed hremembers
      (by decide) (by decide) (by decide : (⟨0⟩ : DeclId).number < thrower.size)
  cases hrun
  cases halias
  cases hget
  obtain ⟨last, after, hlater, hanswer⟩ := hfinal next (.answer hinfer) (by
    rintro ⟨hfails, -⟩
    exact absurd hfails (by decide))
  exact ⟨hclosed, next, last, after, hinfer, hlater, hanswer⟩

/-- A function that could be looked into if it had a body. -/
def bodiless : Arena where
  declarations := #[{ Declaration.ofBody [] with entity := .func {} }]

/-- A function with an inferred attribute that is not recorded as settled. -/
def unsettled : Arena where
  declarations := #[{ Declaration.ofBody [] with
    storage := {.inference, .nothrow}
    entity := .func { body := some {}, inferred := {.nothrow} } }]

/-- Without a body a rejection is not final, and neither is the downgrade of an attribute that is
not recorded as settled. -/
theorem infer_after_rejection_bodiless :
    bodiless.Closed ∧ unsettled.Closed ∧
    (do
      let (holds, session) ← infer {} { arena := bodiless } ⟨0⟩ .nothrow
      let session ← session.run {} [.recordEffect ⟨0⟩ (.gcAllocation .synthetic)]
      return (holds, (← session.infer {} ⟨0⟩ .nothrow).1)) = .ok (false, true) ∧
    (do
      let (errors, arena) ← bodiless.downgrade {} ⟨0⟩ .nothrow none
      let session ← run {} { arena } [.recordEffect ⟨0⟩ (.gcAllocation .synthetic)]
      return (errors, (← session.infer {} ⟨0⟩ .nothrow).1)) = .ok ([], true) ∧
    (do
      let (errors, arena) ← unsettled.downgrade {} ⟨0⟩ .nothrow none
      return (errors, (← infer {} { arena } ⟨0⟩ .nothrow).1)) = .ok ([], true) :=
  ⟨by decide, by decide, rfl, rfl, rfl⟩

end Session

end Declarations
