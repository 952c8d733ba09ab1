import Declarations.Proofs.Nesting.FrameList

/-!
# References into frames, recorded on both sides

A reference to a local of another function is recorded with the local and with the function that the
local belongs to, and the two records have to agree.  This file states what the records of an arena
say when they do, and shows that every reference keeps it so.  A reference is refused exactly when
it needs the frame of a function that it is not nested in, and then nothing is recorded.
-/

namespace Declarations

open Relation

/-- A function refers to a variable, or to a function that it calls. -/
inductive Reference where
  | toVariable (used user : DeclId) (span : Span)
  | toFunction (callee caller : DeclId) (span : Span)

namespace Reference

def user : Reference → DeclId
  | .toVariable _ user _ => user
  | .toFunction _ caller _ => caller

def span : Reference → Span
  | .toVariable _ _ span => span
  | .toFunction _ _ span => span

def IsIn (arena : Arena) : Reference → Prop
  | .toVariable used user _ => arena.IsVariable used ∧ user.number < arena.size
  | .toFunction callee caller _ => callee.number < arena.size ∧ caller.number < arena.size

/-- The reference needs the frame of `owner`: it is to a variable in that frame, or to a nested
function that uses the frame and is no contract of `owner`. -/
def Needs (arena : Arena) : Reference → (target owner : DeclId) → Prop
  | .toVariable used _ _, target, owner => target = used ∧ ∃ declaration,
      arena.get used = .ok declaration ∧ declaration.localTo? = some owner ∧
        Arena.needsNoFrame declaration = false
  | .toFunction callee _ _, target, owner => arena.aliasedFunction callee = .ok target ∧
      arena.isNested target = .ok true ∧ arena.LocalTo target owner ∧
        ¬arena.ContractOf target owner

end Reference

namespace Declaration

variable {declaration : Declaration}

theorem isFunction_of_needsFrame (hneeds : declaration.needsFrame = true) :
    declaration.isFunction = true := by
  unfold needsFrame at hneeds
  split at hneeds <;> simp_all [isFunction, asFunc?]

theorem isFunction_of_aliasedFunction? {aliased : DeclId}
    (halias : declaration.aliasedFunction? = some aliased) : declaration.isFunction = true := by
  unfold aliasedFunction? at halias
  split at halias <;> simp_all [isFunction, asFunc?]

end Declaration

def errorOf? {α : Type} : Except DeclError α → Option DeclError
  | .ok _ => none
  | .error cause => some cause

namespace Arena

/-- Records a reference.  The answer is the error, if the reference is refused. -/
def refer (arena : Arena) : Reference → Except Fault (Option DeclError × Arena)
  | .toVariable used user span => do
      let (answer, after) ← arena.recordVariableUse used user span
      return (errorOf? answer, after)
  | .toFunction callee caller span => do
      let (answer, after) ← arena.recordFunctionUse callee caller span
      return (errorOf? answer, after)

/-- Records one reference after the other; those that are refused are passed over. -/
def referAll (arena : Arena) (references : List Reference) : Except Fault Arena :=
  references.foldlM (fun arena reference => return (← arena.refer reference).2) arena

def LocalsInFunctions (arena : Arena) : Prop :=
  ∀ inner outer, arena.LocalTo inner outer → arena.IsFunction outer

/-- The lists of references agree with each other and with how the functions are nested. -/
structure Agreeing (arena : Arena) : Prop where
  nodup : ∀ list id, (arena.listed list id).Nodup
  referrer_within : ∀ id, ∀ user ∈ arena.listed .referrers id,
    ∃ owner, arena.LocalTo id owner ∧ arena.Within user owner ∧ user ≠ owner
  captured_iff : ∀ owner id, id ∈ arena.listed .captured owner ↔
    arena.LocalTo id owner ∧ ∃ user ∈ arena.listed .referrers id, ¬arena.ContractOf user owner
  caller_within : ∀ callee, ∀ caller ∈ arena.listed .callers callee,
    ∃ owner, arena.LocalTo callee owner ∧ arena.Within caller owner ∧ caller ≠ owner ∧
      caller ≠ callee

variable {arena before after : Arena} {id used user callee caller owner target : DeclId}
  {reference : Reference} {references : List Reference} {declaration : Declaration} {span : Span}

theorem LocalTo.unique {other : DeclId} (hfirst : arena.LocalTo id owner)
    (hsecond : arena.LocalTo id other) : owner = other := by
  obtain ⟨declaration, hget, howner⟩ := hfirst
  rw [localTo_iff hget, howner, Option.some.injEq] at hsecond
  exact hsecond

/-- A reference needs one frame at most. -/
theorem owner_unique_of_needs {other otherOwner : DeclId}
    (hfirst : reference.Needs arena target owner)
    (hsecond : reference.Needs arena other otherOwner) : owner = otherOwner := by
  cases reference with
  | toVariable used user span =>
    obtain ⟨-, declaration, hget, howner, -⟩ := hfirst
    obtain ⟨-, found, hfound, hother, -⟩ := hsecond
    exact LocalTo.unique ⟨declaration, hget, howner⟩ ⟨found, hfound, hother⟩
  | toFunction callee caller span =>
    obtain ⟨htarget, -, howner, -⟩ := hfirst
    obtain ⟨hsame, -, hother, -⟩ := hsecond
    rw [htarget, Except.ok.injEq] at hsame
    rw [hsame] at howner
    exact howner.unique hother

theorem target_unique_of_needs {other otherOwner : DeclId}
    (hfirst : reference.Needs arena target owner)
    (hsecond : reference.Needs arena other otherOwner) : target = other := by
  cases reference with
  | toVariable used user span => rw [hfirst.1, hsecond.1]
  | toFunction callee caller span => exact Except.ok.inj (hfirst.1.symm.trans hsecond.1)

/-- Empty lists agree. -/
theorem agreeing_of_empty
    (hempty : ∀ declaration ∈ arena.declarations.toList, ∀ list, declaration.listed list = []) :
    arena.Agreeing := by
  have hlisted : ∀ list id, arena.listed list id = [] := by
    intro list id
    cases hget : arena.get id with
    | error fault => simp [listed, hget]
    | ok declaration => rw [listed_of_get hget, hempty declaration (mem_of_get hget) list]
  constructor <;> simp [hlisted]

namespace Agreeing

/-- A function is recorded with a variable, and the variable, unless the function is a contract,
with the function that it is local to: then both records have grown together. -/
theorem captured_iff_of_addUse (hagreeing : before.Agreeing)
    (hlocal : before.LocalTo used owner) {contract : Bool}
    (hcontract : contract = true ↔ before.ContractOf user owner) {holder : DeclId} :
    id ∈ before.listed .captured holder ∨ (holder = owner ∧ contract = false) ∧ id = used ↔
      before.LocalTo id holder ∧ ∃ other, (other ∈ before.listed .referrers id ∨
        id = used ∧ other = user) ∧ ¬before.ContractOf other holder := by
  rw [hagreeing.captured_iff]
  constructor
  · rintro (⟨hheld, other, hother, hnot⟩ | ⟨⟨rfl, hruns⟩, rfl⟩)
    · exact ⟨hheld, other, .inl hother, hnot⟩
    · refine ⟨hlocal, user, .inr ⟨rfl, rfl⟩, ?_⟩
      rw [← hcontract, hruns]
      exact Bool.false_ne_true
  · rintro ⟨hheld, other, hold | ⟨rfl, rfl⟩, hnot⟩
    · exact .inl ⟨hheld, other, hold, hnot⟩
    · have howner : holder = owner := hheld.unique hlocal
      rw [howner, ← hcontract, Bool.not_eq_true] at hnot
      exact .inr ⟨⟨howner, hnot⟩, rfl⟩

/-- The lists still agree after a use of a local was recorded. -/
theorem addUse (hagreeing : before.Agreeing) (honly : OnlyLists before after)
    (hlocal : before.LocalTo used owner) (hwithin : before.Within user owner) (hne : user ≠ owner)
    {contract : Bool} (hcontract : contract = true ↔ before.ContractOf user owner)
    (hreferrers : ∀ id, after.listed .referrers id =
      if id = used then addOnce (before.listed .referrers id) user
      else before.listed .referrers id)
    (hcaptured : ∀ id, after.listed .captured id =
      if id = owner ∧ contract = false then addOnce (before.listed .captured id) used
      else before.listed .captured id)
    (hcallers : ∀ id, after.listed .callers id = before.listed .callers id) : after.Agreeing where
  nodup list id := by
    cases list with
    | referrers =>
      rw [hreferrers]
      exact nodup_addOnce_ite (hagreeing.nodup _ _)
    | captured =>
      rw [hcaptured]
      exact nodup_addOnce_ite (hagreeing.nodup _ _)
    | callers =>
      rw [hcallers]
      exact hagreeing.nodup _ _
  referrer_within id other hother := by
    rw [honly.localTo_eq, honly.within_eq]
    rw [hreferrers, mem_addOnce_ite] at hother
    obtain hold | ⟨hused, hnew⟩ := hother
    · exact hagreeing.referrer_within id other hold
    · rw [hused, hnew]
      exact ⟨owner, hlocal, hwithin, hne⟩
  captured_iff holder id := by
    simp only [honly.localTo_eq, honly.contractOf_eq, hcaptured, hreferrers, mem_addOnce_ite]
    exact hagreeing.captured_iff_of_addUse hlocal hcontract
  caller_within callee caller hcaller := by
    rw [hcallers] at hcaller
    rw [honly.localTo_eq, honly.within_eq]
    exact hagreeing.caller_within callee caller hcaller

/-- The lists still agree after a caller was recorded with a nested function. -/
theorem addCaller (hagreeing : before.Agreeing) (honly : OnlyLists before after)
    (hlocal : before.LocalTo callee owner) (hwithin : before.Within caller owner)
    (howner : caller ≠ owner) (hself : caller ≠ callee)
    (hlisted : ∀ list id, after.listed list id =
      if list = .callers ∧ id = callee then addOnce (before.listed list id) caller
      else before.listed list id) : after.Agreeing where
  nodup list id := by
    rw [hlisted]
    exact nodup_addOnce_ite (hagreeing.nodup _ _)
  referrer_within id user huser := by
    simp only [hlisted, reduceCtorEq, false_and, if_false] at huser
    rw [honly.localTo_eq, honly.within_eq]
    exact hagreeing.referrer_within id user huser
  captured_iff owner id := by
    simp only [hlisted, reduceCtorEq, false_and, if_false, honly.localTo_eq, honly.contractOf_eq]
    exact hagreeing.captured_iff owner id
  caller_within id other hother := by
    rw [honly.localTo_eq, honly.within_eq]
    rw [hlisted, mem_addOnce_ite] at hother
    obtain hold | ⟨⟨-, hcallee⟩, hnew⟩ := hother
    · exact hagreeing.caller_within id other hold
    · rw [hcallee, hnew]
      exact ⟨owner, hlocal, hwithin, howner, hself⟩

end Agreeing

/-- An arena in which nothing has changed but the lists of references, which still agree. -/
structure Settled (before after : Arena) : Prop where
  closed : after.Closed
  onlyLists : OnlyLists before after
  agreeing : before.Agreeing → after.Agreeing

theorem Settled.refl (hclosed : arena.Closed) : Settled arena arena :=
  ⟨hclosed, .refl, id⟩

/-- What a reference comes to.  It is refused exactly if it needs a frame out of its reach, and then
the arena stays what it is. -/
inductive Outcome (arena : Arena) (reference : Reference) : Option DeclError → Arena → Prop where
  | granted {after : Arena}
      (inReach : ∀ target owner, reference.Needs arena target owner →
        arena.Within reference.user owner)
      (settled : Settled arena after) : Outcome arena reference none after
  | refused {target owner : DeclId} (needs : reference.Needs arena target owner)
      (outOfReach : ¬arena.Within reference.user owner) :
      Outcome arena reference (some (.cannotAccessFrame target reference.user reference.span)) arena

/-- A reference into a frame in reach is granted. -/
theorem Outcome.of_within (hneeds : reference.Needs arena target owner)
    (hwithin : arena.Within reference.user owner) (hsettled : Settled arena after) :
    Outcome arena reference none after := by
  apply Outcome.granted _ hsettled
  intro other otherOwner hother
  rwa [← owner_unique_of_needs hneeds hother]

/-- The owner of a frame refers to what is in it without a record. -/
theorem Outcome.of_owner (hclosed : arena.Closed) (hneeds : reference.Needs arena target owner)
    (hsame : reference.user = owner) : Outcome arena reference none arena := by
  apply Outcome.of_within hneeds _ (.refl hclosed)
  rw [hsame]
  exact ReflTransGen.refl

/-- A reference that needs no frame is granted, and there is nothing to record. -/
theorem Outcome.of_free (hclosed : arena.Closed)
    (hfree : ∀ target owner, ¬reference.Needs arena target owner) :
    Outcome arena reference none arena := by
  apply Outcome.granted _ (.refl hclosed)
  intro target owner hneeds
  exact absurd hneeds (hfree target owner)

/-- A local that is in the frame of a function around the user is recorded with the user and, unless
the user is a contract, with the owner of the frame. -/
theorem exists_recorded_variableUse (hclosed : arena.Closed) (hlocals : arena.LocalsInFunctions)
    (hget : arena.get used = .ok declaration) (hvariable : declaration.asVariable?.isSome = true)
    (howner : declaration.localTo? = some owner) (hneeded : needsNoFrame declaration = false)
    (huser : user.number < arena.size) (hne : user ≠ owner) (hwithin : arena.Within user owner)
    (span : Span) :
    ∃ after, arena.recordVariableUse used user span = .ok (.ok true, after) ∧
      Settled arena after := by
  have hlocal : arena.LocalTo used owner := (localTo_iff hget).mpr howner
  obtain ⟨within, hisWithin, hiff⟩ := exists_isWithin hclosed owner huser
  rw [hiff.mpr hwithin] at hisWithin
  obtain ⟨referred, hrefer, hreferredClosed, honly, hlisted⟩ :=
    exists_addListed .referrers hclosed hget hvariable huser
  have hrecord : arena.modifyVariable used (fun state =>
      { state with nestedReferences := addOnce state.nestedReferences user }) = .ok referred :=
    hrefer
  have hfunction : referred.IsFunction owner := honly.isFunction_iff.mpr (hlocals _ _ hlocal)
  obtain ⟨contract, hcontractOf, hcontract⟩ := exists_isContractOf user hfunction.lt
  rw [honly.contractOf_eq] at hcontract
  cases contract with
  | true =>
    refine ⟨referred, ?_, hreferredClosed, honly, ?_⟩
    · simp [recordVariableUse, hget, howner, hneeded, hne.symm, hisWithin, hrecord, hcontractOf]
    · intro hagreeing
      apply hagreeing.addUse honly hlocal hwithin hne hcontract
      · simp [hlisted]
      · simp [hlisted]
      · simp [hlisted]
  | false =>
    obtain ⟨state, hstate, hisFunction⟩ := hfunction
    have hused : used.number < referred.size := honly.lt_iff.mpr (lt_of_get hget)
    obtain ⟨after, hcapture, hafterClosed, hmore, hlistedAfter⟩ :=
      exists_addListed .captured hreferredClosed hstate hisFunction hused
    have hremember : referred.modifyFunc owner (fun state =>
        { state with captured := addOnce state.captured used }) = .ok after :=
      hcapture
    refine ⟨after, ?_, hafterClosed, honly.trans hmore, ?_⟩
    · simp [recordVariableUse, hget, howner, hneeded, hne.symm, hisWithin, hrecord, hcontractOf,
        hremember]
    · intro hagreeing
      apply hagreeing.addUse (honly.trans hmore) hlocal hwithin hne hcontract
      · simp [hlistedAfter, hlisted]
      · simp [hlistedAfter, hlisted]
      · simp [hlistedAfter, hlisted]

/-- A use of a local that needs a frame is recorded, if it comes from inside that frame and not from
the owner of the frame. -/
theorem exists_variableUse (hclosed : arena.Closed) (hlocals : arena.LocalsInFunctions)
    (hneeds : (Reference.toVariable used user span).Needs arena target owner)
    (hused : arena.IsVariable used) (huser : user.number < arena.size) :
    ∃ refused after, arena.refer (.toVariable used user span) = .ok (refused, after) ∧
      Outcome arena (.toVariable used user span) refused after := by
  have ⟨htarget, declaration, hget, howner, hneeded⟩ := hneeds
  have hvariable : declaration.asVariable?.isSome = true := by simpa [IsVariable, hget] using hused
  by_cases hsame : user = owner
  · refine ⟨none, arena, ?_, Outcome.of_owner hclosed hneeds hsame⟩
    simp [refer, recordVariableUse, hget, howner, hsame, errorOf?]
  · obtain ⟨within, hisWithin, hwithin⟩ := exists_isWithin hclosed owner huser
    cases within with
    | false =>
      refine ⟨some (.cannotAccessFrame target user span), arena, ?_, ?_⟩
      · simp [refer, recordVariableUse, hget, howner, hneeded, Ne.symm hsame, hisWithin, htarget,
          errorOf?]
      · apply Outcome.refused hneeds
        exact fun hpath => Bool.false_ne_true (hwithin.mpr hpath)
    | true =>
      obtain ⟨after, hrecord, hsettled⟩ := exists_recorded_variableUse hclosed hlocals hget
        hvariable howner hneeded huser hsame (hwithin.mp rfl) span
      refine ⟨none, after, by simp [refer, hrecord, errorOf?], ?_⟩
      exact Outcome.of_within hneeds (hwithin.mp rfl) hsettled

/-- A variable that is in no frame, or needs none, is used from anywhere. -/
theorem exists_refer_toVariable (hclosed : arena.Closed) (hlocals : arena.LocalsInFunctions)
    (hused : arena.IsVariable used) (huser : user.number < arena.size) (span : Span) :
    ∃ refused after, arena.refer (.toVariable used user span) = .ok (refused, after) ∧
      Outcome arena (.toVariable used user span) refused after := by
  by_cases hfree : ∃ target owner, (Reference.toVariable used user span).Needs arena target owner
  · obtain ⟨target, owner, hneeds⟩ := hfree
    exact exists_variableUse hclosed hlocals hneeds hused huser
  · simp only [not_exists] at hfree
    refine ⟨none, arena, ?_, Outcome.of_free hclosed hfree⟩
    obtain ⟨declaration, hget, -⟩ := hused
    cases howner : declaration.localTo? with
    | none => simp [refer, recordVariableUse, hget, howner, errorOf?]
    | some owner =>
      have hnone : needsNoFrame declaration = true := by
        by_contra hneeded
        rw [Bool.not_eq_true] at hneeded
        exact hfree used owner ⟨rfl, declaration, hget, howner, hneeded⟩
      simp [refer, recordVariableUse, hget, howner, hnone, errorOf?]

/-- In a closed arena it can always be said whether a function uses the frame around it. -/
theorem Closed.exists_isNested (hclosed : arena.Closed) (hid : id.number < arena.size) :
    ∃ nested, arena.isNested id = .ok nested := by
  obtain ⟨function, hfunction, hbound⟩ := hclosed.aliasedFunction hid
  obtain ⟨declaration, hget⟩ := exists_get hbound
  exact ⟨declaration.needsFrame, by simp [isNested, hfunction, hget]⟩

/-- Only functions need the frame of the function around them. -/
theorem isFunction_of_isNested (hget : arena.get id = .ok declaration)
    (hnested : arena.isNested id = .ok true) : declaration.isFunction = true := by
  obtain ⟨function, hfunction, hframe⟩ := bind_eq_ok_iff.mp hnested
  obtain ⟨found, hfound, hneeds⟩ := bind_eq_ok_iff.mp hframe
  cases halias : declaration.aliasedFunction? with
  | none =>
    rw [aliasedFunction_of_eq_none hget halias, Except.ok.injEq] at hfunction
    rw [← hfunction, hget, Except.ok.injEq] at hfound
    rw [pure_eq_ok, Except.ok.injEq, ← hfound] at hneeds
    exact Declaration.isFunction_of_needsFrame hneeds
  | some aliased => exact Declaration.isFunction_of_aliasedFunction? halias

/-- A call of a function that uses the frame around it is recorded with the callee, if it comes from
inside that frame and from neither the owner of the frame nor the callee. -/
theorem exists_functionUse (hclosed : arena.Closed)
    (hneeds : (Reference.toFunction callee caller span).Needs arena target owner)
    (hcaller : caller.number < arena.size) :
    ∃ refused after, arena.refer (.toFunction callee caller span) = .ok (refused, after) ∧
      Outcome arena (.toFunction callee caller span) refused after := by
  have ⟨htarget, hnested, hlocal, hcontract⟩ := hneeds
  have ⟨declaration, hget, howner⟩ := hlocal
  have hfunction : declaration.isFunction = true := isFunction_of_isNested hget hnested
  obtain ⟨within, hisWithin, hwithin⟩ := exists_isWithin hclosed owner hcaller
  have hisContract : arena.isContractOf target owner = .ok false := by
    obtain ⟨contract, hisContract, hiff⟩ :=
      exists_isContractOf target (hclosed.lt_of_localTo hlocal)
    rw [← hiff, Bool.not_eq_true] at hcontract
    rw [hisContract, hcontract]
  by_cases hsame : caller = owner
  · refine ⟨none, arena, ?_, Outcome.of_owner hclosed hneeds hsame⟩
    simp [refer, recordFunctionUse, htarget, hnested, hget, howner, hsame, errorOf?]
  · cases within with
    | false =>
      refine ⟨some (.cannotAccessFrame target caller span), arena, ?_, ?_⟩
      · simp [refer, recordFunctionUse, htarget, hnested, hget, howner, Ne.symm hsame, hisContract,
          hisWithin, errorOf?]
      · apply Outcome.refused hneeds
        exact fun hpath => Bool.false_ne_true (hwithin.mpr hpath)
    | true =>
      have hpath : arena.Within caller owner := hwithin.mp rfl
      by_cases hself : caller = target
      · refine ⟨none, arena, ?_, Outcome.of_within hneeds hpath (.refl hclosed)⟩
        subst hself
        simp [refer, recordFunctionUse, htarget, hnested, hget, howner, Ne.symm hsame, hisContract,
          hisWithin, errorOf?]
      · obtain ⟨after, hadd, hafterClosed, honly, hlisted⟩ :=
          exists_addListed .callers hclosed hget hfunction hcaller
        have hremember : arena.modifyFunc target (fun state =>
            { state with siblingCallers := addOnce state.siblingCallers caller }) = .ok after :=
          hadd
        refine ⟨none, after, ?_, Outcome.of_within hneeds hpath ⟨hafterClosed, honly, ?_⟩⟩
        · simp [refer, recordFunctionUse, htarget, hnested, hget, howner, Ne.symm hsame,
            hisContract, hisWithin, hself, hremember, errorOf?]
        · intro hagreeing
          exact hagreeing.addCaller honly hlocal hpath hsame hself hlisted

/-- A call of a function that uses no frame around it, or is a contract of the function around it,
comes from anywhere. -/
theorem exists_refer_toFunction (hclosed : arena.Closed) (hcallee : callee.number < arena.size)
    (hcaller : caller.number < arena.size) (span : Span) :
    ∃ refused after, arena.refer (.toFunction callee caller span) = .ok (refused, after) ∧
      Outcome arena (.toFunction callee caller span) refused after := by
  by_cases hfree : ∃ target owner,
      (Reference.toFunction callee caller span).Needs arena target owner
  · obtain ⟨target, owner, hneeds⟩ := hfree
    exact exists_functionUse hclosed hneeds hcaller
  · simp only [not_exists] at hfree
    refine ⟨none, arena, ?_, Outcome.of_free hclosed hfree⟩
    obtain ⟨target, htarget, hbound⟩ := hclosed.aliasedFunction hcallee
    obtain ⟨declaration, hget⟩ := exists_get hbound
    obtain ⟨nested, hnested⟩ := hclosed.exists_isNested hbound
    cases nested with
    | false => simp [refer, recordFunctionUse, htarget, hnested, errorOf?]
    | true =>
      cases howner : declaration.localTo? with
      | none => simp [refer, recordFunctionUse, htarget, hnested, hget, howner, errorOf?]
      | some owner =>
        have hlocal : arena.LocalTo target owner := (localTo_iff hget).mpr howner
        obtain ⟨contract, hisContract, hcontract⟩ :=
          exists_isContractOf target (hclosed.lt_of_localTo hlocal)
        have hchecks : contract = true := by
          rw [hcontract]
          by_contra hnot
          exact hfree target owner ⟨htarget, hnested, hlocal, hnot⟩
        by_cases hsame : owner = caller <;>
          simp [refer, recordFunctionUse, htarget, hnested, hget, howner, hsame, hisContract,
            hchecks, errorOf?]

/-- Every reference between declarations of a closed arena is answered. -/
theorem exists_refer (hclosed : arena.Closed) (hlocals : arena.LocalsInFunctions)
    (hreference : reference.IsIn arena) :
    ∃ refused after, arena.refer reference = .ok (refused, after) ∧
      Outcome arena reference refused after := by
  cases reference with
  | toVariable used user span =>
    exact exists_refer_toVariable hclosed hlocals hreference.1 hreference.2 span
  | toFunction callee caller span =>
    exact exists_refer_toFunction hclosed hreference.1 hreference.2 span

namespace Outcome

variable {refused : Option DeclError}

theorem settled (houtcome : Outcome arena reference refused after) (hclosed : arena.Closed) :
    Settled arena after := by
  cases houtcome with
  | granted _ hsettled => exact hsettled
  | refused => exact .refl hclosed

theorem eq_of_isSome (houtcome : Outcome arena reference refused after)
    (hrefused : refused.isSome = true) : after = arena := by
  cases houtcome with
  | granted => contradiction
  | refused => rfl

theorem refused_iff (houtcome : Outcome arena reference refused after) (error : DeclError) :
    refused = some error ↔ ∃ target owner, reference.Needs arena target owner ∧
      ¬arena.Within reference.user owner ∧
        error = .cannotAccessFrame target reference.user reference.span := by
  cases houtcome with
  | granted hinReach =>
    constructor
    · nofun
    · rintro ⟨target, owner, hneeds, houtside, -⟩
      exact absurd (hinReach target owner hneeds) houtside
  | refused hneeds houtside =>
    rw [Option.some.injEq]
    constructor
    · rintro rfl
      exact ⟨_, _, hneeds, houtside, rfl⟩
    · rintro ⟨other, otherOwner, hother, -, rfl⟩
      rw [target_unique_of_needs hneeds hother]

end Outcome

/-! ## Runs -/

theorem isIn_of_onlyLists (honly : OnlyLists before after)
    (hreference : reference.IsIn before) : reference.IsIn after := by
  cases reference with
  | toVariable used user span =>
    exact ⟨honly.isVariable_iff.mpr hreference.1, honly.lt_iff.mpr hreference.2⟩
  | toFunction callee caller span =>
    exact ⟨honly.lt_iff.mpr hreference.1, honly.lt_iff.mpr hreference.2⟩

theorem LocalsInFunctions.of_onlyLists (honly : OnlyLists before after)
    (hlocals : before.LocalsInFunctions) : after.LocalsInFunctions := by
  intro inner outer hlocal
  rw [honly.localTo_eq] at hlocal
  exact honly.isFunction_iff.mpr (hlocals inner outer hlocal)

theorem Settled.trans {middle : Arena} (hfirst : Settled before middle)
    (hsecond : Settled middle after) : Settled before after :=
  ⟨hsecond.closed, hfirst.onlyLists.trans hsecond.onlyLists,
    fun hagreeing => hsecond.agreeing (hfirst.agreeing hagreeing)⟩

/-- Every run of references is answered, and the lists that agree before it agree after it. -/
theorem exists_referAll (hclosed : arena.Closed) (hlocals : arena.LocalsInFunctions)
    (hreferences : ∀ reference ∈ references, reference.IsIn arena) :
    ∃ after, arena.referAll references = .ok after ∧ Settled arena after := by
  induction references generalizing arena with
  | nil => exact ⟨arena, rfl, .refl hclosed⟩
  | cons reference references ih =>
    rw [List.forall_mem_cons] at hreferences
    obtain ⟨refused, middle, hrefer, houtcome⟩ := exists_refer hclosed hlocals hreferences.1
    have hmiddle : Settled arena middle := houtcome.settled hclosed
    have hrest : ∀ later ∈ references, later.IsIn middle :=
      fun later hlater => isIn_of_onlyLists hmiddle.onlyLists (hreferences.2 later hlater)
    obtain ⟨after, hrun, hafter⟩ :=
      ih hmiddle.closed (hlocals.of_onlyLists hmiddle.onlyLists) hrest
    refine ⟨after, ?_, hmiddle.trans hafter⟩
    simp only [referAll, List.foldlM_cons, hrefer, ok_bind, pure_eq_ok]
    exact hrun

/-- Whatever functions refer to, one after the other, the records of it agree.  No list has a member
twice.  A variable lists functions nested inside the function that it is local to; that function
lists it as captured exactly if one of them is none of its contracts.  A nested function lists
callers that are nested together with it.  A reference is refused exactly if it needs the frame of a
function that the user is not nested in, and then nothing is recorded. -/
theorem references_agree (hclosed : arena.Closed) (hlocals : arena.LocalsInFunctions)
    (hempty : ∀ declaration ∈ arena.declarations.toList, ∀ list, declaration.listed list = [])
    (hreferences : ∀ reference ∈ references, reference.IsIn arena) :
    ∃ after, arena.referAll references = .ok after ∧ after.Agreeing ∧ OnlyLists arena after ∧
      ∀ reference : Reference, reference.IsIn arena →
        ∃ refused next, after.refer reference = .ok (refused, next) ∧
          (∀ error, refused = some error ↔ ∃ target owner, reference.Needs after target owner ∧
            ¬after.Within reference.user owner ∧
              error = .cannotAccessFrame target reference.user reference.span) ∧
          (refused.isSome = true → next = after) := by
  obtain ⟨after, hrun, hsettled⟩ := exists_referAll hclosed hlocals hreferences
  have hagreeing : after.Agreeing := hsettled.agreeing (agreeing_of_empty hempty)
  refine ⟨after, hrun, hagreeing, hsettled.onlyLists, ?_⟩
  intro reference hreference
  obtain ⟨refused, next, hrefer, houtcome⟩ := exists_refer hsettled.closed
    (hlocals.of_onlyLists hsettled.onlyLists) (isIn_of_onlyLists hsettled.onlyLists hreference)
  exact ⟨refused, next, hrefer, houtcome.refused_iff, houtcome.eq_of_isSome⟩

def functionWithLocal : Arena where
  declarations :=
    #[.func .anonymous .synthetic .plain [],
      { Declaration.var .anonymous .synthetic none with owner := .function ⟨0⟩ },
      { Declaration.func .anonymous .synthetic .plain [] with owner := .function ⟨0⟩ }]

/-- The nested function refers to the local twice, and between that it is called by the function
around it. -/
def usesOfLocal : List Reference :=
  [.toVariable ⟨1⟩ ⟨2⟩ .synthetic, .toFunction ⟨2⟩ ⟨0⟩ .synthetic, .toVariable ⟨1⟩ ⟨2⟩ .synthetic]

theorem references_agree_functionWithLocal :
    functionWithLocal.Closed ∧ functionWithLocal.LocalsInFunctions ∧
    (∀ declaration ∈ functionWithLocal.declarations.toList, ∀ list, declaration.listed list = []) ∧
    (∀ reference ∈ usesOfLocal, reference.IsIn functionWithLocal) ∧
    ∃ after, functionWithLocal.referAll usesOfLocal = .ok after ∧ after.Agreeing ∧
      after.listed .captured ⟨0⟩ = [⟨1⟩] ∧ after.listed .referrers ⟨1⟩ = [⟨2⟩] := by
  have hclosed : functionWithLocal.Closed := by decide
  have hlocals : functionWithLocal.LocalsInFunctions := by
    rintro inner outer ⟨declaration, hget, houter⟩
    have hlocalTo : ∀ found ∈ functionWithLocal.declarations.toList,
        ∀ owner ∈ found.localTo?, owner = ⟨0⟩ := by decide
    rw [hlocalTo declaration (mem_of_get hget) outer houter]
    exact ⟨_, rfl, rfl⟩
  have hempty : ∀ declaration ∈ functionWithLocal.declarations.toList, ∀ list,
      declaration.listed list = [] := by
    intro declaration hmem list
    cases list <;> revert declaration <;> decide
  have hreferences : ∀ reference ∈ usesOfLocal, reference.IsIn functionWithLocal := by
    simp only [usesOfLocal, List.forall_mem_cons]
    exact ⟨⟨⟨_, rfl, rfl⟩, by decide⟩, ⟨by decide, by decide⟩, ⟨⟨_, rfl, rfl⟩, by decide⟩, nofun⟩
  obtain ⟨after, hrun, hagreeing, -⟩ := references_agree hclosed hlocals hempty hreferences
  have hlists : (functionWithLocal.referAll usesOfLocal).map
      (fun after => (after.listed .captured ⟨0⟩, after.listed .referrers ⟨1⟩)) =
        .ok ([⟨1⟩], [⟨2⟩]) := rfl
  rw [hrun, ok_map, Except.ok.injEq, Prod.mk.injEq] at hlists
  exact ⟨hclosed, hlocals, hempty, hreferences, after, hrun, hagreeing, hlists⟩

end Arena

end Declarations
