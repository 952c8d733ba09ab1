import Declarations.Proofs.Inference.Reliance
import Declarations.Proofs.Nesting.Outlive

/-!
# Closures of functions that promise not to allocate

That a function allocates may be found last of all, when it turns out to need a closure.  The
allocation is an effect like any other one: where it breaks what is written in the source of the
function, or of a caller of someone who loses the attribute because of it, there is an error.  The
check of the closure answers with the first of these errors.  So the others are lost, and the check
says everything exactly when no more than one function is to blame.
-/

namespace Declarations

/-- All that the taking back of attributes reads of a declaration. -/
structure CallProfile where
  storage : StorageClass
  /-- What was inferred, if it is a function. -/
  inferred? : Option Attributes
  /-- The functions that are called, by the names that are used for them. -/
  callees : List DeclId

namespace CallProfile

variable (profile : CallProfile) (wanted : Attribute)

def promises : Bool :=
  profile.inferred?.any fun inferred =>
    profile.storage.contains wanted.flag && !inferred.contains wanted

def guarantees : Bool :=
  profile.inferred?.isSome && wanted.holdsIn profile.storage

def isWithdrawable : Bool :=
  profile.inferred?.any (fun inferred => inferred.contains wanted) &&
    !(wanted = .safety && profile.storage.contains .trusted)

end CallProfile

namespace Declaration

variable {declaration : Declaration} {change : Func → Func} {wanted : Attribute}

@[simp]
theorem span_mapFunc : (declaration.mapFunc change).span = declaration.span := by
  unfold mapFunc
  split <;> rfl

def callProfile (declaration : Declaration) : CallProfile where
  storage := declaration.storage
  inferred? := declaration.asFunc?.map Func.inferred
  callees := ((declaration.asFunc?.map Func.effects).getD []).filterMap Effect.callee?

/-- A change that neither touches the record nor adds a call is not seen. -/
theorem callProfile_mapFunc (hinferred : ∀ state, (change state).inferred = state.inferred)
    (hcallees : ∀ state, (change state).effects.filterMap Effect.callee? =
      state.effects.filterMap Effect.callee?) :
    (declaration.mapFunc change).callProfile = declaration.callProfile := by
  simp only [callProfile, storage_mapFunc, asFunc?_mapFunc]
  cases declaration.asFunc? with
  | none => rfl
  | some state => simp [hinferred, hcallees]

theorem callProfile_unmarked : declaration.unmarked.callProfile = declaration.callProfile :=
  callProfile_mapFunc (fun _ => rfl) (fun _ => rfl)

theorem callProfile_addEffect {effect : Effect} (hcall : effect.callee? = none) :
    (declaration.mapFunc (·.addEffect effect)).callProfile = declaration.callProfile := by
  apply callProfile_mapFunc
  · intro state
    rfl
  · intro state
    simp [Func.effects_addEffect, hcall]

theorem promises_callProfile :
    declaration.callProfile.promises wanted = declaration.promises wanted := by
  cases hfunc : declaration.asFunc? <;>
    simp [CallProfile.promises, callProfile, promises, hfunc, isWritten, carries]

theorem guarantees_callProfile : declaration.callProfile.guarantees wanted =
    (declaration.isFunction && wanted.holdsIn declaration.storage) := by
  simp [CallProfile.guarantees, callProfile, isFunction]

theorem isWithdrawable_callProfile :
    declaration.callProfile.isWithdrawable wanted = declaration.isWithdrawable wanted := by
  cases hfunc : declaration.asFunc? <;>
    simp [CallProfile.isWithdrawable, callProfile, isWithdrawable, hfunc]

end Declaration

namespace Arena

structure CallsAlike (before after : Arena) : Prop where
  look_eq : LookAlike Declaration.callProfile before after
  aliasedFunction_eq : ∀ id, after.aliasedFunction id = before.aliasedFunction id

variable {arena before after : Arena} {wanted : Attribute}
variable {function target caller callee : DeclId} {effect : Effect}

theorem callsTo_iff_callees : arena.CallsTo caller callee ↔
    ∃ named, (∃ declaration, arena.get caller = .ok declaration ∧
      declaration.callProfile.callees.contains named = true) ∧
        arena.aliasedFunction named = .ok callee := by
  simp only [CallsTo, effectsOf, calleesOf, Declaration.callProfile, List.contains_eq_mem,
    decide_eq_true_eq, List.mem_filterMap, Set.mem_ofPred_eq]
  cases arena.get caller with
  | error fault => simp
  | ok declaration =>
    simp only [Except.ok.injEq, exists_eq_left']
    grind

namespace CallsAlike

theorem symm (halike : CallsAlike before after) : CallsAlike after before where
  look_eq id := (halike.look_eq id).symm
  aliasedFunction_eq id := (halike.aliasedFunction_eq id).symm

variable (halike : CallsAlike before after)
include halike

theorem insists_iff : after.Insists wanted function ↔ before.Insists wanted function := by
  have hpromises : after.Promises function wanted ↔ before.Promises function wanted :=
    halike.look_eq.exists_get_iff (fun profile => profile.promises wanted)
      (fun _ => Declaration.promises_callProfile) function true
  have htrusts : after.Trusts function ↔ before.Trusts function := by
    have hsame := halike.look_eq.exists_get_iff (fun profile => profile.storage.contains .trusted)
      (fun _ => rfl) function true
    simpa only [Trusts, FlagSet.mem_iff, Declaration.callProfile] using hsame
  rw [Insists, Insists, hpromises, htrusts]

theorem mem_guaranteeing_iff :
    function ∈ after.guaranteeing wanted ↔ function ∈ before.guaranteeing wanted := by
  have hsame := halike.look_eq.exists_get_iff (fun profile => profile.guarantees wanted)
    (fun _ => Declaration.guarantees_callProfile) function true
  simpa only [guaranteeing, Set.mem_ofPred_eq, Bool.and_eq_true] using hsame

theorem mem_retractable_iff :
    function ∈ after.retractable wanted ↔ function ∈ before.retractable wanted :=
  halike.look_eq.exists_get_iff (fun profile => profile.isWithdrawable wanted)
    (fun _ => Declaration.isWithdrawable_callProfile) function true

theorem callsTo_iff : after.CallsTo caller callee ↔ before.CallsTo caller callee := by
  simp only [callsTo_iff_callees, halike.aliasedFunction_eq]
  apply exists_congr
  intro named
  apply and_congr_left'
  exact halike.look_eq.exists_get_iff (fun profile => profile.callees.contains named)
    (fun _ => rfl) caller true

theorem calleesOf_eq (effect : Effect) : after.calleesOf effect = before.calleesOf effect := by
  simp only [calleesOf, halike.aliasedFunction_eq]

theorem relies_of_relies (hrelies : before.Relies wanted target function) :
    after.Relies wanted target function := by
  induction hrelies with
  | target => exact .target
  | caller _ hguarantees hretractable hcalls ih =>
    exact .caller ih (halike.mem_guaranteeing_iff.mpr hguarantees)
      (halike.mem_retractable_iff.mpr hretractable) (halike.callsTo_iff.mpr hcalls)

theorem relies_iff : after.Relies wanted target function ↔ before.Relies wanted target function :=
  ⟨halike.symm.relies_of_relies, halike.relies_of_relies⟩

end CallsAlike

/-- The mark of a closure is no part of the profile. -/
theorem Marks.callsAlike (hmarks : Marks before after) : CallsAlike before after where
  look_eq id := by
    have hunmarked : ∀ arena : Arena, (arena.get id).map Declaration.callProfile =
        (arena.unmarked.get id).map Declaration.callProfile := by
      intro arena
      rw [get_unmarked]
      cases arena.get id <;> simp [Declaration.callProfile_unmarked]
    rw [hunmarked, hmarks, ← hunmarked]
  aliasedFunction_eq id := by
    have hevolves : Evolves {} before after := hmarks.evolves
    exact hevolves.aliasedFunction_eq id

/-- An effect that is no call is no part of the profile. -/
theorem callsAlike_of_addEffect (hcall : effect.callee? = none)
    (hadd : before.modifyFunc target (·.addEffect effect) = .ok after) :
    CallsAlike before after where
  look_eq := map_get_of_change (get_of_modifyFunc hadd) fun _ =>
    Declaration.callProfile_addEffect hcall
  aliasedFunction_eq := aliasedFunction_of_addEffect hadd

/-! ## Who is to blame for an allocation -/

/-- It is written in the source of the function that it does not allocate, which fails when
`allocating` turns out to: the function is that one itself, or it calls one of those who lose the
attribute then. -/
def BrokenByAllocation (arena : Arena) (allocating function : DeclId) : Prop :=
  arena.Insists .nogc function ∧
    (function = allocating ∨
      allocating ∈ arena.guaranteeing .nogc ∧ allocating ∈ arena.retractable .nogc ∧
        ∃ callee, arena.Relies .nogc allocating callee ∧ arena.CallsTo function callee)

def ExplainsAllocation (arena : Arena) (allocating : DeclId) (span : Span) (function : DeclId)
    (effect : Effect) : Prop :=
  function = allocating ∧ effect = .closureAllocation span ∨
    effect ∈ arena.effectsOf function ∧
      ∃ callee ∈ arena.calleesOf effect, arena.Relies .nogc allocating callee

/-- One error for each function to blame, each with an effect that explains it. -/
structure BlamesAllocation (arena : Arena) (allocating : DeclId) (span : Span)
    (blamed : List (DeclId × Effect)) : Prop where
  nodup : (blamed.map Prod.fst).Nodup
  mem_iff : ∀ function, function ∈ blamed.map Prod.fst ↔
    arena.BrokenByAllocation allocating function
  explains : ∀ blame ∈ blamed, arena.ExplainsAllocation allocating span blame.1 blame.2

def allocationError (blame : DeclId × Effect) : DeclError :=
  .attributeViolation blame.1 .nogc (some blame.2)

variable {allocating : DeclId} {span : Span} {blamed : List (DeclId × Effect)}

/-- The same are to blame when the functions call each other as before, and no call was added. -/
theorem BlamesAllocation.congr (halike : CallsAlike before after)
    (heffects : ∀ function, ∀ effect ∈ after.effectsOf function,
      (after.calleesOf effect).Nonempty → effect ∈ before.effectsOf function)
    (hblames : after.BlamesAllocation allocating span blamed) :
    before.BlamesAllocation allocating span blamed where
  nodup := hblames.nodup
  mem_iff function := by
    rw [hblames.mem_iff]
    simp only [BrokenByAllocation, halike.insists_iff, halike.mem_guaranteeing_iff,
      halike.mem_retractable_iff, halike.relies_iff, halike.callsTo_iff]
  explains blame hblame := by
    obtain hself | ⟨heffect, callee, hcallee, hrelies⟩ := hblames.explains blame hblame
    · exact .inl hself
    · have hold := heffects blame.1 blame.2 heffect ⟨callee, hcallee⟩
      rw [halike.calleesOf_eq] at hcallee
      rw [halike.relies_iff] at hrelies
      exact .inr ⟨hold, callee, hcallee, hrelies⟩

theorem BlamesAllocation.of_marks (hmarks : Marks before after)
    (hblames : after.BlamesAllocation allocating span blamed) :
    before.BlamesAllocation allocating span blamed := by
  apply hblames.congr hmarks.callsAlike
  intro function effect heffect _
  rwa [effectsOf_of_marks hmarks] at heffect

theorem BlamesAllocation.of_addEffect
    (hadd : before.modifyFunc target (·.addEffect (.closureAllocation span)) = .ok after)
    (hblames : after.BlamesAllocation allocating span blamed) :
    before.BlamesAllocation allocating span blamed := by
  apply hblames.congr (callsAlike_of_addEffect rfl hadd)
  rintro function effect heffect ⟨callee, named, hnamed, -⟩
  -- The allocation calls no one, so the effect was in the body before.
  apply (mem_effectsOf_of_addEffect hadd heffect).resolve_right
  rintro ⟨-, hsame⟩
  rw [hsame] at hnamed
  contradiction

/-- Without the attribute no one is to blame. -/
theorem blamesAllocation_nil (hmissing : allocating ∉ arena.guaranteeing .nogc) :
    arena.BlamesAllocation allocating span [] where
  nodup := List.nodup_nil
  mem_iff function := by
    simp only [List.map_nil, List.not_mem_nil, false_iff]
    rintro ⟨hinsists, hsame | ⟨hguarantees, -⟩⟩
    · rw [hsame] at hinsists
      exact hmissing hinsists.guarantees
    · exact hmissing hguarantees
  explains := by simp

/-- A function in the source of which it is written is to blame alone. -/
theorem blamesAllocation_self (hinsists : arena.Insists .nogc allocating) :
    arena.BlamesAllocation allocating span [(allocating, .closureAllocation span)] where
  nodup := List.nodup_singleton _
  mem_iff function := by
    rw [List.map_singleton, List.mem_singleton]
    constructor
    · intro hsame
      rw [hsame]
      exact ⟨hinsists, .inl rfl⟩
    · rintro ⟨-, hsame | ⟨-, hretractable, -⟩⟩
      · exact hsame
      · exact absurd hretractable hinsists.notMem_retractable
  explains blame hblame := by
    rw [List.mem_singleton.mp hblame]
    exact .inl ⟨rfl, rfl⟩

/-- When the attribute is taken back, the callers are to blame that insist on it. -/
theorem Retracted.blamesAllocation {errors : List DeclError}
    (hretracted : Retracted .nogc allocating before after errors)
    (hguarantees : allocating ∈ before.guaranteeing .nogc)
    (hretractable : allocating ∈ before.retractable .nogc) :
    ∃ blamed, errors = blamed.map allocationError ∧
      before.BlamesAllocation allocating span blamed := by
  obtain ⟨edges, herrors, hnodup, hmem, hedges⟩ := hretracted.reports
  have hcallers : (edges.map fun edge => (edge.caller, edge.effect)).map Prod.fst =
      edges.map CallEdge.caller := by
    rw [List.map_map]
    rfl
  refine ⟨edges.map fun edge => (edge.caller, edge.effect), ?_, ?_⟩
  · rw [herrors, List.map_map]
    rfl
  constructor
  case nodup => rwa [hcallers]
  case mem_iff =>
    intro function
    rw [hcallers, hmem, BrokenByAllocation]
    apply and_congr_right
    intro hinsists
    have hother : function ≠ allocating := by
      intro hsame
      rw [hsame] at hinsists
      exact hinsists.notMem_retractable hretractable
    simp [hother, hguarantees, hretractable]
  case explains =>
    intro blame hblame
    obtain ⟨edge, hedge, rfl⟩ := List.mem_map.mp hblame
    obtain ⟨hrelies, heffect, hcallee⟩ := hedges edge hedge
    exact .inr ⟨heffect, edge.callee, hcallee, hrelies⟩

/-- Where it was inferred that a function does not allocate, that can be taken back, and where it
was not, it is written. -/
theorem mem_retractable_or_insists (hguarantees : function ∈ arena.guaranteeing .nogc) :
    function ∈ arena.retractable .nogc ∨ arena.Insists .nogc function := by
  obtain ⟨declaration, hget, hisFunction, hholds⟩ := hguarantees
  obtain ⟨state, hfunc⟩ := Option.isSome_iff_exists.mp hisFunction
  by_cases hinferred : .nogc ∈ state.inferred
  · left
    refine ⟨declaration, hget, ?_⟩
    rw [Declaration.isWithdrawable_iff hfunc]
    exact ⟨hinferred, by simp⟩
  · right
    rw [insists_iff_of_get hget]
    refine ⟨?_, by simp⟩
    rw [Attribute.holdsIn_iff] at hholds
    have hcarries : Attribute.flag .nogc ∈ declaration.storage := hholds.resolve_right (by simp)
    rw [FlagSet.mem_iff] at hcarries hinferred
    simp [Declaration.promises, hfunc, Declaration.isWritten, Declaration.carries, hcarries,
      hinferred]

/-- A downgrade because of an allocation reports exactly those who are to blame for it. -/
theorem Closed.exists_downgrade_allocation (config : Config) (hclosed : arena.Closed)
    (hguarantees : function ∈ arena.guaranteeing .nogc)
    (hsame : arena.aliasedFunction function = .ok function) (span : Span) :
    ∃ blamed after, arena.downgrade config function .nogc (some (.closureAllocation span)) =
        .ok (blamed.map allocationError, after) ∧
      arena.BlamesAllocation function span blamed := by
  cases mem_retractable_or_insists hguarantees with
  | inl hretractable =>
    obtain ⟨errors, after, hrun, hretracted⟩ := hclosed.downgrade_of_retractable hsame
      hretractable config (some (.closureAllocation span))
    obtain ⟨blamed, herrors, hblames⟩ :=
      hretracted.blamesAllocation hguarantees hretractable
    rw [herrors] at hrun
    exact ⟨blamed, after, hrun, hblames⟩
  | inr hinsists =>
    have hbound : function.number < arena.size := by
      obtain ⟨declaration, hget, -⟩ := hguarantees
      exact lt_of_get hget
    obtain ⟨target, errors, after, -, -, hrun, -⟩ := exists_downgraded config .nogc hclosed hbound
      (some (.closureAllocation span))
    obtain ⟨herrors, -⟩ := downgrade_of_insists hsame hinsists hrun
    rw [herrors] at hrun
    exact ⟨[(function, .closureAllocation span)], after, hrun, blamesAllocation_self hinsists⟩

end Arena

namespace Session

open Arena

variable {session : Session} {arena marked : Arena} {config : Config} {about : Attribute}
variable {function : DeclId} {declaration : Declaration} {span : Span}

/-! ## The check of a closure -/

/-- The allocation of a closure breaks one attribute only. -/
theorem breaks_closureAllocation (config : Config) (session : Session) (about : Attribute)
    (span : Span) :
    session.breaks config about (.closureAllocation span) = .ok (about = .nogc, session) := by
  cases about <;> rfl

theorem checkNewEffect_closureAllocation (config : Config) (span : Span)
    (hget : session.arena.get function = .ok declaration) (habout : about ≠ .nogc) :
    session.checkNewEffect config function (.closureAllocation span) about =
      .ok ([], session) := by
  rw [checkNewEffect, hget, ok_bind, breaks_closureAllocation]
  split
  · rfl
  · simp [habout]

/-- So the check of all attributes comes down to that one. -/
theorem checkNewEffectAgainst_closureAllocation (config : Config) (span : Span)
    (hget : session.arena.get function = .ok declaration) :
    checkNewEffectAgainst config function (.closureAllocation span) session Flag.all =
      session.checkNewEffect config function (.closureAllocation span) .nogc := by
  have hskip : ∀ about, about ≠ .nogc →
      session.checkNewEffect config function (.closureAllocation span) about =
        .ok ([], session) :=
    fun about habout => checkNewEffect_closureAllocation config span hget habout
  change checkNewEffectAgainst config function (.closureAllocation span) session
    [.purity, .safety, .nothrow, .nogc] = _
  simp only [checkNewEffectAgainst, hskip .purity (by decide), hskip .safety (by decide),
    hskip .nothrow (by decide), ok_bind, pure_eq_ok, List.nil_append, List.append_nil]
  cases session.checkNewEffect config function (.closureAllocation span) .nogc <;> rfl

/-- Adding the allocation of a closure reports exactly those who are to blame for it. -/
theorem exists_recordAllocation (config : Config) (hclosed : arena.Closed)
    (hget : arena.get function = .ok declaration) (hisFunction : declaration.isFunction = true)
    (halias : declaration.aliasedFunction? = none) (span : Span) :
    ∃ blamed after,
      recordEffect config { arena } function (.closureAllocation span) =
        .ok (blamed.map allocationError, after) ∧
      arena.BlamesAllocation function span blamed := by
  have hbound : function.number < arena.size := lt_of_get hget
  have hsame : arena.aliasedFunction function = .ok function :=
    aliasedFunction_of_eq_none hget halias
  obtain ⟨added, hadd, haddedClosed⟩ := exists_addEffect hclosed hbound
    (by simp [Effect.handles] : ∀ handle ∈ (Effect.closureAllocation span).handles,
      handle.number < arena.size)
  obtain ⟨found, hfound⟩ : ∃ found, added.get function = .ok found := by
    apply exists_get
    rwa [size_of_modifyFunc hadd]
  have hrun : recordEffect config { arena } function (.closureAllocation span) =
      checkNewEffect config function (.closureAllocation span) { arena := added } .nogc := by
    simp only [recordEffect, hsame, hget, hisFunction, hadd, ok_bind]
    exact checkNewEffectAgainst_closureAllocation config span hfound
  have hguarantees : function ∈ added.guaranteeing .nogc ↔
      found.status config .nogc = .holds := by
    rw [guaranteeing_eq config, mem_withStatus_iff_of_get hfound]
  rw [hrun, checkNewEffect, hfound, ok_bind, breaks_closureAllocation]
  by_cases hholds : found.status config .nogc = .holds
  · have hsameAdded : added.aliasedFunction function = .ok function := by
      rw [aliasedFunction_of_addEffect hadd, hsame]
    obtain ⟨blamed, after, hdowngrade, hblames⟩ :=
      haddedClosed.exists_downgrade_allocation config (hguarantees.mpr hholds) hsameAdded span
    refine ⟨blamed, { arena := after }, ?_, hblames.of_addEffect hadd⟩
    simp [hholds, hdowngrade]
  · have hmissing : function ∉ added.guaranteeing .nogc := by rwa [hguarantees]
    refine ⟨[], { arena := added }, ?_, (blamesAllocation_nil hmissing).of_addEffect hadd⟩
    simp [hholds]

/-- Who needs a closure is a function. -/
theorem isFunction_of_needsClosure (hget : arena.get function = .ok declaration)
    (hneeded : arena.needsClosure function = .ok (true, marked)) :
    declaration.isFunction = true := by
  cases hfunc : declaration.asFunc? with
  | none => simp [needsClosure, asFunc?, hget, hfunc] at hneeded
  | some state => simp [Declaration.isFunction, hfunc]

def closureAnswer : List (DeclId × Effect) → Except DeclError Bool
  | [] => .ok true
  | first :: _ => .error (allocationError first)

/-- With no more than one function to blame the answer says everything. -/
theorem closureAnswer_names_all_iff {blamed : List (DeclId × Effect)}
    (hblames : arena.BlamesAllocation function span blamed) :
    (∀ blame ∈ blamed, closureAnswer blamed = .error (allocationError blame)) ↔
      ∀ first second, arena.BrokenByAllocation function first →
        arena.BrokenByAllocation function second → first = second := by
  have hnodup := hblames.nodup
  simp only [← hblames.mem_iff]
  constructor
  · intro hall first second hfirst hsecond
    obtain ⟨left, hleft, rfl⟩ := List.mem_map.mp hfirst
    obtain ⟨right, hright, rfl⟩ := List.mem_map.mp hsecond
    have hsame : allocationError left = allocationError right :=
      Except.error.inj ((hall left hleft).symm.trans (hall right hright))
    exact (DeclError.attributeViolation.inj hsame).1
  · intro hunique blame hblame
    cases hblamed : blamed with
    | nil => simp [hblamed] at hblame
    | cons first rest =>
      rw [hblamed] at hnodup hunique hblame
      obtain hfirst | hrest := List.mem_cons.mp hblame
      · rw [hfirst]
        rfl
      · -- A second function to blame would be the same as the first one.
        have hmem : blame.1 ∈ rest.map Prod.fst := List.mem_map_of_mem hrest
        have hsame : first.1 = blame.1 := by
          apply hunique
          · simp
          · exact List.mem_cons_of_mem _ hmem
        rw [List.map_cons, List.nodup_cons] at hnodup
        rw [← hsame] at hmem
        exact absurd hmem hnodup.1

/-- The check of a closure finds everyone who is to blame for the allocation, and names the first
one only.  Everyone is named exactly when there are no two of them. -/
theorem checkClosure_names_first (config : Config) (hclosed : arena.Closed)
    (hget : arena.get function = .ok declaration) (halias : declaration.aliasedFunction? = none)
    (hneeded : arena.needsClosure function = .ok (true, marked)) :
    ∃ blamed after,
      recordEffect config { arena := marked } function (.closureAllocation declaration.span) =
        .ok (blamed.map allocationError, after) ∧
      checkClosure config { arena } function = .ok (closureAnswer blamed, after) ∧
      arena.BlamesAllocation function declaration.span blamed ∧
      ((∀ blame ∈ blamed, closureAnswer blamed = .error (allocationError blame)) ↔
        ∀ first second, arena.BrokenByAllocation function first →
          arena.BrokenByAllocation function second → first = second) := by
  have hisFunction := isFunction_of_needsClosure hget hneeded
  obtain ⟨needed, changed, hrun, hmarks, -⟩ := exists_needsClosure hclosed (lt_of_get hget)
  rw [hneeded, Except.ok.injEq, Prod.mk.injEq] at hrun
  rw [← hrun.2] at hmarks
  obtain ⟨next, hnext, hsame⟩ := hmarks.exists_get hget
  have hunmarked : ∀ found : Declaration, found.unmarked.aliasedFunction? =
      found.aliasedFunction? :=
    fun found => Declaration.aliasedFunction?_mapFunc fun _ => rfl
  have hspan : next.span = declaration.span := by
    have hsee : ∀ found : Declaration, found.unmarked.span = found.span :=
      fun found => Declaration.span_mapFunc
    rw [← hsee, hsame, hsee]
  have hnextFunction : next.isFunction = true := by
    rwa [← Declaration.isFunction_unmarked, hsame, Declaration.isFunction_unmarked]
  have hnextAlias : next.aliasedFunction? = none := by
    rwa [← hunmarked, hsame, hunmarked]
  obtain ⟨blamed, after, hrecord, hblames⟩ := exists_recordAllocation config
    (hmarks.closed hclosed) hnext hnextFunction hnextAlias declaration.span
  refine ⟨blamed, after, hrecord, ?_, hblames.of_marks hmarks,
    closureAnswer_names_all_iff (hblames.of_marks hmarks)⟩
  simp only [checkClosure, hneeded, ok_bind, hnext, hspan, hrecord]
  cases blamed <;> rfl

/-- A function that was inferred not to allocate and needs a closure, and two callers of it that
promise not to allocate. -/
def twoAnnotatedCallers : Arena where
  declarations := #[
    { Declaration.func .anonymous .synthetic .plain [] with
      storage := {.inference, .nogc}
      entity := .func { captured := [⟨1⟩], body := some {}, inferred := {.nogc}
                        concluded := {.nogc} } },
    referredLocal ⟨0⟩ ⟨2⟩,
    nestedFunction ⟨0⟩ { addressUses := 1 },
    { Declaration.ofBody [.call ⟨0⟩ .synthetic] with storage := {.nogc} },
    { Declaration.ofBody [.call ⟨0⟩ .synthetic] with storage := {.nogc} }]

theorem checkClosure_names_first_twoAnnotatedCallers :
    twoAnnotatedCallers.Closed ∧
    ∃ declaration marked, twoAnnotatedCallers.get ⟨0⟩ = .ok declaration ∧
      declaration.aliasedFunction? = none ∧
      twoAnnotatedCallers.needsClosure ⟨0⟩ = .ok (true, marked) ∧
      ∃ blamed after,
        recordEffect {} { arena := marked } ⟨0⟩ (.closureAllocation declaration.span) =
          .ok (blamed.map allocationError, after) ∧
        checkClosure {} { arena := twoAnnotatedCallers } ⟨0⟩ =
          .ok (closureAnswer blamed, after) ∧
        twoAnnotatedCallers.BlamesAllocation ⟨0⟩ declaration.span blamed ∧
        ((∀ blame ∈ blamed, closureAnswer blamed = .error (allocationError blame)) ↔
          ∀ first second, twoAnnotatedCallers.BrokenByAllocation ⟨0⟩ first →
            twoAnnotatedCallers.BrokenByAllocation ⟨0⟩ second → first = second) := by
  have hclosed : twoAnnotatedCallers.Closed := by decide
  obtain ⟨declaration, hget⟩ : ∃ declaration, twoAnnotatedCallers.get ⟨0⟩ = .ok declaration :=
    ⟨_, rfl⟩
  have halias : declaration.aliasedFunction? = none := by
    cases hget
    rfl
  obtain ⟨marked, hneeded⟩ : ∃ marked,
      twoAnnotatedCallers.needsClosure ⟨0⟩ = .ok (true, marked) := ⟨_, rfl⟩
  exact ⟨hclosed, declaration, marked, hget, halias, hneeded,
    checkClosure_names_first {} hclosed hget halias hneeded⟩

/-- The second of two errors does not reach the caller of the check. -/
theorem checkClosure_drops_second_twoAnnotatedCallers :
    ∃ marked first second answer after,
      twoAnnotatedCallers.needsClosure ⟨0⟩ = .ok (true, marked) ∧
      recordEffect {} { arena := marked } ⟨0⟩ (.closureAllocation .synthetic) =
        .ok ([first, second], after) ∧
      checkClosure {} { arena := twoAnnotatedCallers } ⟨0⟩ = .ok (answer, after) ∧
      first = .attributeViolation ⟨3⟩ .nogc (some (.call ⟨0⟩ .synthetic)) ∧
      second = .attributeViolation ⟨4⟩ .nogc (some (.call ⟨0⟩ .synthetic)) ∧
      answer = .error first ∧ answer ≠ .error second := by
  refine ⟨_, _, _, _, _, rfl, rfl, rfl, rfl, rfl, rfl, ?_⟩
  intro hsame
  have hfunctions := (DeclError.attributeViolation.inj (Except.error.inj hsame)).1
  contradiction

end Session

end Declarations
