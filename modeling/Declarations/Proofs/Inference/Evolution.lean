import Declarations.Proofs.Inference.LateEffect
import Declarations.Proofs.Inference.Operation
import Declarations.Proofs.Nesting.Escape

/-!
# How declarations change in a run

Whatever operations make up a run, a declaration only changes in four ways: an undecided attribute
is concluded, an inferred one is taken back, an effect comes to the body, and a closure is marked.
What each of these preserves holds along every run.
-/

namespace Declarations

open Relation

namespace Declaration

/-- One change of a declaration. -/
inductive Revises (config : Config) : Declaration → Declaration → Prop where
  | concluded {declaration : Declaration} {wanted : Attribute} (holds : Bool)
      (undecided : declaration.status config wanted = .undecided) :
      Revises config declaration (declaration.conclude wanted holds)
  | withdrawn {declaration : Declaration} {wanted : Attribute}
      (withdrawable : declaration.isWithdrawable wanted = true) :
      Revises config declaration (declaration.withdraw wanted)
  | extended {declaration : Declaration} (effect : Effect) :
      Revises config declaration (declaration.mapFunc (·.addEffect effect))
  | marked {declaration next : Declaration} (same : next.unmarked = declaration.unmarked) :
      Revises config declaration next

variable {declaration next : Declaration} {config : Config}

/-- A change is not seen by what looks neither at the record nor, apart from the role, at the state
of a function. -/
theorem Revises.observe_eq {α : Type} (hrevises : Revises config declaration next)
    (observe : Declaration → α)
    (hkeep : ∀ found : Declaration, observe (found.keep ∅) = observe found)
    (hmapFunc : ∀ (found : Declaration) (change : Func → Func),
      (∀ state, (change state).role = state.role) →
        observe (found.mapFunc change) = observe found) :
    observe next = observe declaration := by
  cases hrevises with
  | @concluded wanted holds undecided =>
    rw [← hkeep, keep_conclude (FlagSet.not_mem_empty wanted), hkeep]
  | @withdrawn wanted withdrawable =>
    obtain ⟨state, hfunc, -⟩ := exists_of_isWithdrawable withdrawable
    rw [← hkeep, keep_withdraw hfunc (FlagSet.not_mem_empty wanted), hkeep]
  | extended effect => exact hmapFunc _ _ fun _ => rfl
  | marked same =>
    have hunmarked : ∀ found : Declaration, observe found.unmarked = observe found :=
      fun found => hmapFunc found _ fun _ => rfl
    rw [← hunmarked, same, hunmarked]

/-- No change makes a function another name for another one. -/
theorem Revises.aliasedFunction?_eq (hrevises : Revises config declaration next) :
    next.aliasedFunction? = declaration.aliasedFunction? :=
  hrevises.observe_eq _ (fun _ => aliasedFunction?_keep) fun _ _ => aliasedFunction?_mapFunc

theorem Revises.asVariable?_eq (hrevises : Revises config declaration next) :
    next.asVariable? = declaration.asVariable? :=
  hrevises.observe_eq _ (fun _ => asVariable?_keep) fun _ _ _ => asVariable?_mapFunc

/-- Only properties that record attributes are changed. -/
theorem Revises.meets_eq {marks : StorageClass} (hrevises : Revises config declaration next)
    (hmarks : ∀ guarantee : Attribute, guarantee.flag ∉ marks) :
    next.storage.meets marks = declaration.storage.meets marks :=
  hrevises.observe_eq (·.storage.meets marks) (fun _ => meets_keep hmarks) fun _ _ _ => by simp

end Declaration

namespace Arena

structure Evolves (config : Config) (before after : Arena) : Prop where
  size_eq : after.size = before.size
  revises : ∀ id declaration, before.get id = .ok declaration →
    ∃ next, after.get id = .ok next ∧
      ReflTransGen (Declaration.Revises config) declaration next

variable {arena before middle after : Arena} {config : Config} {wanted : Attribute}

namespace Evolves

theorem refl : Evolves config arena arena :=
  ⟨rfl, fun _ declaration hget => ⟨declaration, hget, .refl⟩⟩

theorem trans (hfirst : Evolves config before middle) (hsecond : Evolves config middle after) :
    Evolves config before after := by
  refine ⟨hsecond.size_eq.trans hfirst.size_eq, fun id declaration hget => ?_⟩
  obtain ⟨changed, hchanged, hleft⟩ := hfirst.revises id declaration hget
  obtain ⟨next, hnext, hright⟩ := hsecond.revises id changed hchanged
  exact ⟨next, hnext, hleft.trans hright⟩

/-- Some declarations are changed at once. -/
theorem of_get {members : List DeclId} {change : Declaration → Declaration}
    (hsize : after.size = before.size)
    (hget : ∀ id, after.get id =
      if id ∈ members then (before.get id).map change else before.get id)
    (hchange : ∀ id ∈ members, ∀ declaration, before.get id = .ok declaration →
      Declaration.Revises config declaration (change declaration)) :
    Evolves config before after := by
  refine ⟨hsize, fun id declaration hbefore => ?_⟩
  by_cases hmember : id ∈ members
  · refine ⟨change declaration, ?_, .single (hchange id hmember declaration hbefore)⟩
    rw [hget, if_pos hmember, hbefore, ok_map]
  · exact ⟨declaration, by rw [hget, if_neg hmember, hbefore], .refl⟩

/-- What no change of a declaration is seen by is the same for all declarations. -/
theorem observe_eq {α : Type} {observe : Declaration → α} (hevolves : Evolves config before after)
    (hobserve : ∀ {declaration next}, Declaration.Revises config declaration next →
      observe next = observe declaration) (id : DeclId) :
    (after.get id).map observe = (before.get id).map observe := by
  by_cases hid : id.number < before.size
  · obtain ⟨declaration, hget⟩ := exists_get hid
    obtain ⟨next, hnext, hrevises⟩ := hevolves.revises id declaration hget
    rw [hnext, hget, ok_map, ok_map, Except.ok.injEq]
    clear hnext
    induction hrevises with
    | refl => rfl
    | tail _ hstep ih => exact (hobserve hstep).trans ih
  · have hbefore : before.size ≤ id.number := Nat.le_of_not_lt hid
    rw [get_of_size_le hbefore, get_of_size_le (by rwa [hevolves.size_eq])]

theorem aliasedFunction_eq (hevolves : Evolves config before after) (id : DeclId) :
    after.aliasedFunction id = before.aliasedFunction id :=
  aliasedFunction_congr hevolves.size_eq
    (hevolves.observe_eq Declaration.Revises.aliasedFunction?_eq) id

/-- The same effects break an attribute by themselves. -/
theorem breaksDirectly_eq (hevolves : Evolves config before after) (wanted : Attribute)
    (effect : Effect) :
    after.breaksDirectly wanted effect = before.breaksDirectly wanted effect := by
  apply breaksDirectly_congr
  · exact hevolves.observe_eq fun hrevises => hrevises.meets_eq Attribute.flag_notMem_constant
  · intro field
    have hsame := hevolves.observe_eq Declaration.Revises.asVariable?_eq field
    cases hafter : after.get field <;> cases hbefore : before.get field <;>
      simp_all [asVariable?]

/-- The same effects are fine. -/
theorem allows_iff (hevolves : Evolves config before after) {relied : Set DeclId}
    {effect : Effect} :
    after.Allows wanted relied effect ↔ before.Allows wanted relied effect := by
  simp only [Allows, hevolves.aliasedFunction_eq, hevolves.breaksDirectly_eq]

end Evolves

theorem evolves_of_conclude {holds : Bool} {members : List DeclId} (hnodup : members.Nodup)
    (hundecided : ∀ member ∈ members, member ∈ before.withStatus config wanted .undecided)
    (hconclude : before.conclude wanted holds members = .ok after) :
    Evolves config before after := by
  have houtline := keep_of_conclude (FlagSet.not_mem_empty wanted) hconclude
  refine .of_get ?_ (get_of_conclude hnodup hconclude) fun id hmember declaration hget => ?_
  · exact size_of_keep_eq houtline
  · exact .concluded holds
      ((mem_withStatus_iff_of_get hget config wanted .undecided).mp (hundecided id hmember))

theorem Grows.evolves (hgrows : Grows config before after) : Evolves config before after := by
  induction hgrows with
  | refl => exact .refl
  | tail _ hstep ih =>
    obtain ⟨wanted, hsettles⟩ := hstep
    obtain ⟨members, holds, hnodup, hmembers, hconclude⟩ := hsettles.exists_group
    exact ih.trans (evolves_of_conclude hnodup (fun member hmember => (hmembers member hmember).1)
      hconclude)

theorem Withdrawn.evolves {dropped : List DeclId}
    (hwithdrawn : Withdrawn wanted dropped before after) : Evolves config before after := by
  refine .of_get hwithdrawn.size_eq hwithdrawn.get_eq fun id hmember declaration hget => ?_
  obtain ⟨found, hfound, hwithdrawable⟩ := hwithdrawn.withdrawable id hmember
  obtain rfl : found = declaration := Except.ok.inj (hfound.symm.trans hget)
  exact .withdrawn hwithdrawable

theorem Downgraded.evolves {target : DeclId} {cause : Option Effect} {errors : List DeclError}
    (hdowngraded : Downgraded config wanted target cause before errors after) :
    Evolves config before after := by
  cases hdowngraded with
  | dropped retreats => exact retreats.withdrawn.evolves
  | refused undecided concluded =>
    exact evolves_of_conclude (List.nodup_singleton target)
      (List.forall_mem_singleton.mpr undecided) concluded
  | violated | settled | trusted => exact .refl

theorem evolves_of_addEffect {target : DeclId} {effect : Effect}
    (hadd : before.modifyFunc target (·.addEffect effect) = .ok after) :
    Evolves config before after := by
  have hget : ∀ id, after.get id = if id ∈ [target] then
      (before.get id).map fun declaration => declaration.mapFunc (·.addEffect effect)
      else before.get id := by
    simp only [List.mem_singleton]
    exact get_of_modifyFunc hadd
  exact .of_get (size_of_modifyFunc hadd) hget fun _ _ _ _ => .extended effect

theorem Marks.evolves (hmarks : Marks before after) : Evolves config before after := by
  refine ⟨hmarks.size_eq, fun id declaration hget => ?_⟩
  obtain ⟨next, hnext, hsame⟩ := hmarks.exists_get hget
  exact ⟨next, hnext, .single (.marked hsame)⟩

end Arena

namespace Session

open Arena

variable {session after : Session} {config : Config} {wanted : Attribute}

theorem Checked.evolves {function target : DeclId} {effect : Effect}
    (hchecked : session.Checked config function target effect wanted after) :
    Evolves config session.arena after.arena := by
  cases hchecked with
  | unneeded => exact .refl
  | fine _ answered => exact answered.learns.grows.evolves
  | broken _ answered downgraded => exact answered.learns.grows.evolves.trans downgraded.evolves

theorem CheckedEach.evolves {function target : DeclId} {effect : Effect}
    {attributes : List Attribute}
    (hchecked : session.CheckedEach config function target effect attributes after) :
    Evolves config session.arena after.arena := by
  induction hchecked with
  | nil => exact .refl
  | cons checked _ ih => exact checked.evolves.trans ih

theorem Recorded.evolves {target final : DeclId} {effect : Effect}
    (hrecorded : session.Recorded config target final effect after) :
    Evolves config session.arena after.arena := by
  cases hrecorded with
  | ignored => exact .refl
  | checked _ _ added checked => exact (evolves_of_addEffect added).trans checked.evolves

/-- What became of the question whether a function needs a closure.  Closures were marked, and if
one is needed, its allocation was recorded as an effect. -/
inductive ClosureChecked (config : Config) (function : DeclId) (before : Session) :
    Session → Prop where
  | unneeded {arena : Arena} (marks : Marks before.arena arena) :
      ClosureChecked config function before { before with arena }
  | needed {arena : Arena} {target final : DeclId} {effect : Effect} {after : Session}
      (marks : Marks before.arena arena)
      (target_eq : before.arena.aliasedFunction function = .ok target)
      (final_eq : before.arena.aliasedFunction target = .ok final)
      (recorded : Recorded config target final effect { before with arena } after) :
      ClosureChecked config function before after

/-- Whether a function needs a closure can always be said. -/
theorem exists_closureChecked (config : Config) (hidle : session.Idle) {function : DeclId}
    (hfunction : function.number < session.arena.size) :
    ∃ answer after, session.checkClosure config function = .ok (answer, after) ∧ after.Idle ∧
      session.ClosureChecked config function after := by
  obtain ⟨needed, arena, hneeded, hmarks, -⟩ := exists_needsClosure hidle.closed hfunction
  have hmarked : Session.Idle { session with arena } :=
    ⟨hidle.stack_eq, hmarks.closed hidle.closed⟩
  have hbound : function.number < arena.size := by rwa [hmarks.size_eq]
  cases needed with
  | false =>
    exact ⟨.ok false, { session with arena }, by simp [checkClosure, hneeded], hmarked,
      .unneeded hmarks⟩
  | true =>
    obtain ⟨declaration, hget⟩ := exists_get hbound
    obtain ⟨target, final, errors, after, htarget, hfinal, hrecord, hrecorded, hafter⟩ :=
      exists_recorded config (.closureAllocation declaration.span) hmarked hbound
        (by simp [Effect.handles])
    have hevolves : Evolves config session.arena arena := hmarks.evolves
    rw [hevolves.aliasedFunction_eq] at htarget hfinal
    have hchecked : session.ClosureChecked config function after :=
      .needed hmarks htarget hfinal hrecorded
    cases errors with
    | nil =>
      exact ⟨.ok true, after, by simp [checkClosure, hneeded, hget, hrecord], hafter, hchecked⟩
    | cons first rest =>
      exact ⟨.error first, after, by simp [checkClosure, hneeded, hget, hrecord], hafter, hchecked⟩

theorem ClosureChecked.evolves {function : DeclId}
    (hchecked : session.ClosureChecked config function after) :
    Evolves config session.arena after.arena := by
  cases hchecked with
  | unneeded marks => exact marks.evolves
  | needed marks _ _ recorded => exact marks.evolves.trans recorded.evolves

inductive Performed (config : Config) (before : Session) : Operation → Session → Prop where
  | queried {query : Operation} {after : Session} (isQuery_eq : query.isQuery = true)
      (follows : Follows config before after) : Performed config before query after
  | downgraded {function target : DeclId} {wanted : Attribute} {cause : Option Effect}
      {errors : List DeclError} {arena : Arena}
      (target_eq : before.arena.aliasedFunction function = .ok target)
      (downgraded : Downgraded config wanted target cause before.arena errors arena) :
      Performed config before (.downgrade function wanted cause) { before with arena }
  | recorded {function target final : DeclId} {effect : Effect} {after : Session}
      (target_eq : before.arena.aliasedFunction function = .ok target)
      (final_eq : before.arena.aliasedFunction target = .ok final)
      (recorded : Recorded config target final effect before after) :
      Performed config before (.recordEffect function effect) after
  | closureChecked {function : DeclId} {after : Session}
      (checked : ClosureChecked config function before after) :
      Performed config before (.checkClosure function) after

/-- Every operation on declarations of the arena comes to an end. -/
theorem exists_performed (config : Config) (hidle : session.Idle) {operation : Operation}
    (hhandles : ∀ handle ∈ operation.handles, handle.number < session.arena.size) :
    ∃ after, session.perform config operation = .ok after ∧ after.Idle ∧
      session.Performed config operation after := by
  cases hquery : operation.isQuery with
  | true =>
    obtain ⟨after, hperform, hfollows⟩ := perform_query_follows config hidle hquery hhandles
    exact ⟨after, hperform, hfollows.idle, .queried hquery hfollows⟩
  | false =>
    cases operation with
    | infer | inferAll | verify => contradiction
    | downgrade function wanted cause =>
      obtain ⟨target, errors, arena, htarget, -, hdowngrade, hdowngraded⟩ :=
        exists_downgraded config wanted hidle.closed
          (hhandles function (by simp [Operation.handles])) cause
      exact ⟨{ session with arena }, by simp [perform, hdowngrade],
        ⟨hidle.stack_eq, closed_of_keep_eq hdowngraded.outline_eq hidle.closed⟩,
        .downgraded htarget hdowngraded⟩
    | recordEffect function effect =>
      obtain ⟨target, final, errors, after, htarget, hfinal, hrecord, hrecorded, hafter⟩ :=
        exists_recorded config effect hidle (hhandles function (by simp [Operation.handles]))
          fun handle hhandle => hhandles handle (by simp [Operation.handles, hhandle])
      exact ⟨after, by simp [perform, hrecord], hafter, .recorded htarget hfinal hrecorded⟩
    | checkClosure function =>
      obtain ⟨answer, after, hcheck, hafter, hchecked⟩ := exists_closureChecked config hidle
        (hhandles function (by simp [Operation.handles]))
      exact ⟨after, by simp [perform, hcheck], hafter, .closureChecked hchecked⟩

theorem Performed.evolves {operation : Operation}
    (hperformed : session.Performed config operation after) :
    Evolves config session.arena after.arena := by
  cases hperformed with
  | queried _ follows => exact follows.grows.evolves
  | downgraded _ downgraded => exact downgraded.evolves
  | recorded _ _ recorded => exact recorded.evolves
  | closureChecked checked => exact checked.evolves

/-- Every run on declarations of the arena comes to an end. -/
theorem run_evolves (config : Config) (hidle : session.Idle) {operations : List Operation}
    (hhandles : ∀ operation ∈ operations, ∀ handle ∈ operation.handles,
      handle.number < session.arena.size) :
    ∃ after, session.run config operations = .ok after ∧ after.Idle ∧
      Evolves config session.arena after.arena := by
  induction operations generalizing session with
  | nil => exact ⟨session, rfl, hidle, .refl⟩
  | cons operation operations ih =>
    obtain ⟨middle, hperform, hmiddle, hperformed⟩ := exists_performed config hidle
      (hhandles operation List.mem_cons_self)
    have hfirst := hperformed.evolves
    obtain ⟨after, hrest, hafter, hsecond⟩ := ih hmiddle (by
      rw [hfirst.size_eq]
      exact fun other hother => hhandles other (List.mem_cons_of_mem operation hother))
    exact ⟨after, by rw [run_cons, hperform, ok_bind, hrest], hafter, hfirst.trans hsecond⟩

end Session

end Declarations
