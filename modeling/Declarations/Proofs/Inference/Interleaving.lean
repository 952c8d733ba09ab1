import Declarations.Proofs.Inference.Incremental

/-!
# Queries between changes

Asking for attributes early makes no difference for later answers: what was concluded too early is
taken back when an effect is recorded or a downgrade is asked for.  The proof follows two runs with
the same changes, one with queries in between and one without, and shows that both track the same
reference.  It needs that an effect is recorded on a function that has a body and that, as a
function alias, is not part of a cycle: there the effect would go to one function and the downgrade
to another.
-/

namespace Declarations

def Declaration.isFresh (declaration : Declaration) : Bool :=
  declaration.asFunc?.all fun state => state.inferred = ∅ && state.concluded = ∅

namespace Arena

/-- The arena after an operation if nothing is concluded from what bodies do. -/
def register (config : Config) (arena : Arena) : Operation → Except Fault Arena
  | .downgrade function wanted _ => do
      arena.refuse config (← arena.aliasedFunction function) wanted
  | .recordEffect function effect => do
      let target ← arena.aliasedFunction function
      if (← arena.get target).isFunction then
        arena.modifyFunc target (·.addEffect effect)
      else
        return arena
  | .infer _ _ | .inferAll _ | .verify _ | .checkClosure _ => .ok arena

/-- The operation asks, downgrades, or records an effect on a function that has a body and is no
other name for another one. -/
def Admits (arena : Arena) : Operation → Prop
  | .recordEffect function _ => ∃ target, arena.aliasedFunction function = .ok target ∧
      arena.aliasedFunction target = .ok target ∧ arena.HasBody target
  | .checkClosure _ => False
  | .infer _ _ | .inferAll _ | .verify _ | .downgrade _ _ _ => True

variable {arena next : Arena} {config : Config}

/-- What a name stands for, and which functions have bodies, stays as it is. -/
theorem register_keeps {operation : Operation}
    (hregister : arena.register config operation = .ok next) :
    next.size = arena.size ∧ (∀ id, next.aliasedFunction id = arena.aliasedFunction id) ∧
      ∀ id, arena.HasBody id → next.HasBody id := by
  cases operation with
  | downgrade function wanted cause =>
    obtain ⟨target, -, hrefuse⟩ := bind_eq_ok_iff.mp hregister
    obtain ⟨declaration, hget, -⟩ := bind_eq_ok_iff.mp hrefuse
    obtain ⟨found, hfound, hnarrows, -⟩ := exists_refuse config wanted (lt_of_get hget)
    obtain rfl : found = next := Except.ok.inj (hfound.symm.trans hrefuse)
    exact ⟨size_of_keep_eq hnarrows.outline_eq, aliasedFunction_of_keep_eq hnarrows.outline_eq,
      fun id hbody => hasBody_of_keep_eq hnarrows.outline_eq hbody⟩
  | recordEffect function effect =>
    obtain ⟨target, -, hrest⟩ := bind_eq_ok_iff.mp hregister
    obtain ⟨declaration, -, hrest⟩ := bind_eq_ok_iff.mp hrest
    split at hrest
    · exact ⟨size_of_modifyFunc hrest, aliasedFunction_of_addEffect hrest,
        fun id => hasBody_of_addEffect hrest⟩
    · obtain rfl := Except.ok.inj hrest
      exact ⟨rfl, fun _ => rfl, fun _ hbody => hbody⟩
  | infer | inferAll | verify | checkClosure =>
    obtain rfl := Except.ok.inj hregister
    exact ⟨rfl, fun _ => rfl, fun _ hbody => hbody⟩

theorem admits_of_register {operation other : Operation}
    (hregister : arena.register config operation = .ok next) (hother : arena.Admits other) :
    next.Admits other := by
  obtain ⟨-, halias, hbodies⟩ := register_keeps hregister
  cases other with
  | recordEffect function effect =>
    obtain ⟨target, htarget, hself, hbody⟩ := hother
    exact ⟨target, by rw [halias, htarget], by rw [halias, hself], hbodies target hbody⟩
  | _ => exact hother

end Arena

namespace Session

open Arena

/-- The session agrees with the reference about all attributes, and no question is open. -/
structure Tracks (config : Config) (reference : Arena) (session : Session) : Prop where
  idle : session.Idle
  tracks : ∀ wanted, Arena.Tracks config wanted ∅ reference session.arena

variable {session : Session} {reference : Arena} {config : Config}

theorem Tracks.outline_eq (htracks : Tracks config reference session) :
    session.arena.keep ∅ = reference.keep ∅ :=
  (htracks.tracks .purity).outline_eq

theorem Tracks.size_eq (htracks : Tracks config reference session) :
    session.arena.size = reference.size :=
  size_of_keep_eq htracks.outline_eq

theorem Tracks.aliasedFunction_eq (htracks : Tracks config reference session) (id : DeclId) :
    session.arena.aliasedFunction id = reference.aliasedFunction id :=
  aliasedFunction_of_keep_eq htracks.outline_eq id

/-- A query leaves the reference as it is. -/
theorem Tracks.follow {after : Session} (htracks : Tracks config reference session)
    (hfollows : Follows config session after) : Tracks config reference after :=
  ⟨hfollows.idle, fun wanted => (htracks.tracks wanted).grow hfollows.grows⟩

/-- A downgrade is registered in the reference. -/
theorem Tracks.exists_downgrade (htracks : Tracks config reference session) {function : DeclId}
    (hfunction : function.number < reference.size) (wanted : Attribute) (cause : Option Effect) :
    ∃ after next, session.perform config (.downgrade function wanted cause) = .ok after ∧
      reference.register config (.downgrade function wanted cause) = .ok next ∧
      Tracks config next after := by
  obtain ⟨target, errors, arena, halias, htarget, hdowngrade, hdowngraded⟩ :=
    exists_downgraded config wanted htracks.idle.closed (by rwa [htracks.size_eq]) cause
  obtain ⟨next, hrefuse, hnarrows, hnext, hothers⟩ :=
    exists_refuse config wanted (by rwa [← htracks.size_eq])
  rw [htracks.aliasedFunction_eq] at halias
  refine ⟨{ session with arena }, next, by simp [perform, hdowngrade],
    by simp [register, halias, hrefuse], ⟨htracks.idle.stack_eq, ?_⟩, fun other => ?_⟩
  · exact closed_of_keep_eq hdowngraded.outline_eq htracks.idle.closed
  · by_cases hother : wanted = other
    · subst hother
      exact (htracks.tracks wanted).downgrade hnarrows hnext hdowngraded
    · have hnot : wanted ∉ ({other} : Attributes) := by simpa using hother
      exact ((htracks.tracks other).of_keep_eq (hdowngraded.keep_eq hnot)).of_reference_keep_eq
        (hothers {other} hnot)

/-- An effect is registered in the reference. -/
theorem Tracks.exists_recordEffect (htracks : Tracks config reference session) {function : DeclId}
    {effect : Effect} (hadmits : reference.Admits (.recordEffect function effect))
    (hfunction : function.number < reference.size)
    (heffect : ∀ handle ∈ effect.handles, handle.number < reference.size) :
    ∃ after next, session.perform config (.recordEffect function effect) = .ok after ∧
      reference.register config (.recordEffect function effect) = .ok next ∧
      Tracks config next after := by
  obtain ⟨target, final, errors, after, htarget, hfinal, hrun, hrecorded, hafter⟩ :=
    exists_recorded config effect htracks.idle (by rwa [htracks.size_eq]) (by rwa [htracks.size_eq])
  obtain ⟨named, hnamed, hself, hbody⟩ := hadmits
  rw [htracks.aliasedFunction_eq] at htarget hfinal
  obtain rfl : target = named := Except.ok.inj (htarget.symm.trans hnamed)
  obtain rfl : final = target := Except.ok.inj (hfinal.symm.trans hself)
  have hfunctionOf : ∀ {declaration : Declaration}, session.arena.get final = .ok declaration →
      ∃ known, reference.get final = .ok known ∧ known.isFunction = declaration.isFunction := by
    intro declaration hget
    obtain ⟨known, hknown, hsame⟩ := exists_get_of_keep_eq htracks.outline_eq hget
    exact ⟨known, hknown, by rw [← Declaration.isFunction_keep, ← hsame,
      Declaration.isFunction_keep]⟩
  cases hrecorded with
  | ignored get_eq isFunction_eq =>
    obtain ⟨known, hknown, hsame⟩ := hfunctionOf get_eq
    exact ⟨session, reference, by simp [perform, hrun],
      by simp [register, htarget, hknown, hsame, isFunction_eq], htracks⟩
  | checked get_eq isFunction_eq added checked =>
    obtain ⟨known, hknown, hsame⟩ := hfunctionOf get_eq
    obtain ⟨next, hnext⟩ := exists_modifyFunc (·.addEffect effect) (lt_of_get hknown)
    refine ⟨after, next, by simp [perform, hrun],
      by simp [register, htarget, hknown, hsame, isFunction_eq, hnext], hafter, fun wanted => ?_⟩
    exact ((htracks.tracks wanted).addEffect added hnext hbody).checkEach (fun _ => id)
      (mem_effectsOf_addEffect added get_eq isFunction_eq) checked (.inr (Flag.mem_all wanted))

/-- A change is registered in the reference. -/
theorem Tracks.exists_change (htracks : Tracks config reference session) {operation : Operation}
    (hchange : operation.isQuery = false) (hadmits : reference.Admits operation)
    (hhandles : ∀ handle ∈ operation.handles, handle.number < reference.size) :
    ∃ after next, session.perform config operation = .ok after ∧
      reference.register config operation = .ok next ∧ Tracks config next after := by
  cases operation with
  | infer | inferAll | verify => contradiction
  | checkClosure => exact absurd hadmits id
  | downgrade function wanted cause =>
    exact htracks.exists_downgrade (hhandles function (by simp [Operation.handles])) wanted cause
  | recordEffect function effect =>
    exact htracks.exists_recordEffect hadmits (hhandles function (by simp [Operation.handles]))
      fun handle hhandle => hhandles handle (by simp [Operation.handles, hhandle])

/-- With and without queries, a run ends in arenas that agree with one reference. -/
theorem Tracks.run_both {queried plain : Session} (hqueried : Tracks config reference queried)
    (hplain : Tracks config reference plain) {operations : List Operation}
    (hadmits : ∀ operation ∈ operations, reference.Admits operation)
    (hhandles : ∀ operation ∈ operations, ∀ handle ∈ operation.handles,
      handle.number < reference.size) :
    ∃ queriedAfter plainAfter next, queried.run config operations = .ok queriedAfter ∧
      plain.run config (operations.filter (!·.isQuery)) = .ok plainAfter ∧
      Tracks config next queriedAfter ∧ Tracks config next plainAfter ∧
      next.size = reference.size ∧
      ∀ id, next.aliasedFunction id = reference.aliasedFunction id := by
  induction operations generalizing queried plain reference with
  | nil => exact ⟨queried, plain, reference, rfl, rfl, hqueried, hplain, rfl, fun _ => rfl⟩
  | cons operation operations ih =>
    have hfirst := hhandles operation List.mem_cons_self
    cases hquery : operation.isQuery with
    | true =>
      obtain ⟨middle, hperform, hfollows⟩ := perform_query_follows config hqueried.idle hquery
        (by rwa [hqueried.size_eq])
      obtain ⟨queriedAfter, plainAfter, next, hrun, hplainRun, hrest⟩ :=
        ih (hqueried.follow hfollows) hplain
          (fun other hother => hadmits other (List.mem_cons_of_mem operation hother))
          (fun other hother => hhandles other (List.mem_cons_of_mem operation hother))
      refine ⟨queriedAfter, plainAfter, next, by rw [run_cons, hperform, ok_bind, hrun], ?_, hrest⟩
      rwa [List.filter_cons_of_neg (by simp [hquery])]
    | false =>
      have hadmitted := hadmits operation List.mem_cons_self
      obtain ⟨queriedMiddle, middle, hperform, hregister, hqueriedMiddle⟩ :=
        hqueried.exists_change hquery hadmitted hfirst
      obtain ⟨plainMiddle, other, hplainPerform, hother, hplainMiddle⟩ :=
        hplain.exists_change hquery hadmitted hfirst
      obtain rfl : middle = other := Except.ok.inj (hregister.symm.trans hother)
      obtain ⟨hsize, halias, -⟩ := register_keeps hregister
      obtain ⟨queriedAfter, plainAfter, next, hrun, hplainRun, hqueriedAfter, hplainAfter, hnext,
          hnames⟩ := ih hqueriedMiddle hplainMiddle
          (fun other hother => admits_of_register hregister
            (hadmits other (List.mem_cons_of_mem operation hother)))
          (fun other hother handle hhandle => by
            rw [hsize]
            exact hhandles other (List.mem_cons_of_mem operation hother) handle hhandle)
      refine ⟨queriedAfter, plainAfter, next, by rw [run_cons, hperform, ok_bind, hrun], ?_,
        hqueriedAfter, hplainAfter, hnext.trans hsize, fun id => (hnames id).trans (halias id)⟩
      rw [List.filter_cons_of_pos (by simp [hquery]), run_cons, hplainPerform, ok_bind, hplainRun]

/-- Queries between changes change no later answer, as long as effects are recorded on functions
that have a body, under names that lead out of all cycles of function aliases. -/
theorem infer_eq_without_queries {arena : Arena} (hclosed : arena.Closed)
    (hfresh : ∀ declaration ∈ arena.declarations.toList, declaration.isFresh = true)
    {operations : List Operation} (hadmits : ∀ operation ∈ operations, arena.Admits operation)
    (hhandles : ∀ operation ∈ operations, ∀ handle ∈ operation.handles,
      handle.number < arena.size)
    {function : DeclId} (hfunction : function.number < arena.size) (wanted : Attribute) :
    ∃ queried plain holds queriedAfter plainAfter,
      run config { arena } operations = .ok queried ∧
      run config { arena } (operations.filter (!·.isQuery)) = .ok plain ∧
      queried.infer config function wanted = .ok (holds, queriedAfter) ∧
      plain.infer config function wanted = .ok (holds, plainAfter) := by
  have hstart : Tracks config arena { arena } := by
    refine ⟨⟨rfl, hclosed⟩, fun other => .refl fun id declaration state hget hfunc => ?_⟩
    have hdeclaration := hfresh declaration (mem_of_get hget)
    simp only [Declaration.isFresh, hfunc, Option.all_some, Bool.and_eq_true,
      decide_eq_true_iff] at hdeclaration
    rw [hdeclaration.1]
    exact FlagSet.not_mem_empty other
  obtain ⟨queried, plain, next, hrun, hplainRun, hqueried, hplain, hsize, halias⟩ :=
    hstart.run_both hstart hadmits hhandles
  -- Both answers are those of the reference.
  have hanswer : ∀ {session : Session}, Tracks config next session →
      ∃ target holds after, next.aliasedFunction function = .ok target ∧
        session.infer config function wanted = .ok (holds, after) ∧
        (holds = true ↔ target ∈ next.entitled config wanted) := by
    intro session htracks
    obtain ⟨target, holds, after, hnamed, -, hinfer, hanswered⟩ :=
      infer_answered config wanted htracks.idle (by rwa [htracks.size_eq, hsize])
    rw [htracks.aliasedFunction_eq] at hnamed
    refine ⟨target, holds, after, hnamed, hinfer, ?_⟩
    rw [hanswered.holds_iff fun hsubset hmem => hsubset hmem, (htracks.tracks wanted).entitled_eq]
  obtain ⟨target, holds, queriedAfter, hnamed, hinfer, hholds⟩ := hanswer hqueried
  obtain ⟨other, plainHolds, plainAfter, hother, hplainInfer, hplainHolds⟩ := hanswer hplain
  obtain rfl : target = other := Except.ok.inj (hnamed.symm.trans hother)
  have hsame : plainHolds = holds := Bool.eq_iff_iff.mpr (hplainHolds.trans hholds.symm)
  exact ⟨queried, plain, holds, queriedAfter, plainAfter, hrun, hplainRun, hinfer,
    hsame ▸ hplainInfer⟩

def caller : Arena where
  declarations := #[.ofBody [.call ⟨1⟩ .synthetic], .ofBody []]

theorem infer_eq_without_queries_caller :
    caller.Closed ∧
    ∃ queried plain holds queriedAfter plainAfter,
      run {} { arena := caller } [.infer ⟨0⟩ .nothrow, .recordEffect ⟨1⟩ (.throwing .synthetic),
        .verify ⟨0⟩, .downgrade ⟨0⟩ .purity none] = .ok queried ∧
      run {} { arena := caller } [.recordEffect ⟨1⟩ (.throwing .synthetic),
        .downgrade ⟨0⟩ .purity none] = .ok plain ∧
      queried.infer {} ⟨0⟩ .nothrow = .ok (holds, queriedAfter) ∧
      plain.infer {} ⟨0⟩ .nothrow = .ok (holds, plainAfter) := by
  have hclosed : caller.Closed := by decide
  have hbody : caller.HasBody ⟨1⟩ := by
    intro declaration state hget hfunc
    cases hget
    cases hfunc
    rfl
  have hadmits : ∀ operation ∈ [Operation.infer ⟨0⟩ .nothrow,
      .recordEffect ⟨1⟩ (.throwing .synthetic), .verify ⟨0⟩, .downgrade ⟨0⟩ .purity none],
      caller.Admits operation := by
    simp only [List.forall_mem_cons, List.not_mem_nil, false_implies, implies_true, and_true]
    exact ⟨trivial, ⟨⟨1⟩, rfl, rfl, hbody⟩, trivial, trivial⟩
  exact ⟨hclosed, infer_eq_without_queries hclosed (by decide) hadmits (by decide) (by decide)
    .nothrow⟩

/-- Two functions that are other names for each other, and have bodies nevertheless. -/
def mutualAliases : Arena where
  declarations := #[(Declaration.ofBody []).mapFunc fun state =>
      { state with role := .aliasTo ⟨1⟩ false },
    (Declaration.ofBody []).mapFunc fun state => { state with role := .aliasTo ⟨0⟩ false }]

/-- With function aliases in a cycle a query changes later answers. -/
theorem infer_ne_without_queries_mutualAliases :
    mutualAliases.Closed ∧
    (∀ declaration ∈ mutualAliases.declarations.toList, declaration.isFresh = true) ∧
    mutualAliases.HasBody ⟨0⟩ ∧ mutualAliases.HasBody ⟨1⟩ ∧
    (do
      let session ← run {} { arena := mutualAliases }
        [.infer ⟨0⟩ .nothrow, .recordEffect ⟨0⟩ (.throwing .synthetic)]
      return (← session.infer {} ⟨0⟩ .nothrow).1) = .ok true ∧
    (do
      let session ← run {} { arena := mutualAliases }
        [.recordEffect ⟨0⟩ (.throwing .synthetic)]
      return (← session.infer {} ⟨0⟩ .nothrow).1) = .ok false := by
  refine ⟨by decide, by decide, ?_, ?_, rfl, rfl⟩
  all_goals
    intro declaration state hget hfunc
    cases hget
    cases hfunc
    rfl

end Session

end Declarations
