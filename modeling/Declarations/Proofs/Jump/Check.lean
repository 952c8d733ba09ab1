import Declarations.Proofs.Jump.Scope

/-!
# The check of a jump

The check of a jump goes back along the chain of the label, and stops at the first declaration that
the chain of the jump has as well.  That is as good as comparing the two chains as sets, because
what comes before a shared declaration is shared.  It holds of every two chains of a closed arena,
also of those that lead in a circle: a chain that has come back to itself has shown all its
declarations.
-/

namespace Declarations

namespace Arena

def previous? (arena : Arena) (id : DeclId) : Option DeclId :=
  (arena.get id).toOption.bind Declaration.previous?

def stepsBack (arena : Arena) : Nat → Option DeclId → Option DeclId
  | 0, last => last
  | steps + 1, last => arena.stepsBack steps (last.bind arena.previous?)

def OnChain (arena : Arena) (last : Option DeclId) (id : DeclId) : Prop :=
  ∃ steps, arena.stepsBack steps last = some id

/-- A jump from where `source` is the last declaration in scope to where `target` is leaves out a
declaration that is needed. -/
def JumpsOver (arena : Arena) (source target : Option DeclId) (id : DeclId) : Prop :=
  arena.OnChain target id ∧ ¬arena.OnChain source id ∧ arena.IsNeeded id

def JumpsOverFirst (arena : Arena) (source target : Option DeclId) (id : DeclId) : Prop :=
  ∃ steps, arena.stepsBack steps target = some id ∧ arena.JumpsOver source target id ∧
    ∀ fewer < steps, ∀ other, arena.stepsBack fewer target = some other →
      ¬arena.JumpsOver source target other

variable {arena : Arena} {id : DeclId} {declaration : Declaration}
  {source target last : Option DeclId} {passed locals sourceLocals targetLocals : List DeclId}

theorem previous?_of_get (hget : arena.get id = .ok declaration) :
    arena.previous? id = declaration.previous? := by
  simp [previous?, hget, Except.toOption]

@[simp]
theorem stepsBack_none (steps : Nat) : arena.stepsBack steps none = none := by
  induction steps with
  | zero => rfl
  | succ steps ih => exact ih

/-! ## Chains of a closed arena -/

/-- The declaration before another one of a closed arena can be read. -/
theorem Closed.lt_of_previous? (hclosed : arena.Closed) (hget : arena.get id = .ok declaration) :
    ∀ previous ∈ declaration.previous?, previous.number < arena.size := by
  intro previous hprevious
  apply hclosed.lt_of_mem_handles hget
  obtain ⟨state, hvariable, hstate⟩ := Option.bind_eq_some_iff.mp hprevious
  simp [Declaration.handles, Declaration.entity_of_asVariable? hvariable, Entity.handles, hstate]

/-- Every chain of a closed arena comes to its beginning, or back to what was passed. -/
theorem Closed.exists_scope_of_passed (hclosed : arena.Closed) (steps : Nat)
    (hlast : ∀ id ∈ last, id.number < arena.size) (hnodup : passed.Nodup)
    (hpassed : ∀ id ∈ passed, id.number < arena.size)
    (hsteps : arena.size < passed.length + steps) : ∃ locals, Scope arena passed last locals := by
  induction steps generalizing last passed with
  | zero =>
    have hlength := DeclId.length_le_of_nodup hnodup hpassed
    omega
  | succ steps ih =>
    cases last with
    | none => exact ⟨[], .bottom⟩
    | some current =>
      by_cases hmem : current ∈ passed
      · exact ⟨[], .back hmem⟩
      · have hcurrent : current.number < arena.size := hlast current rfl
        obtain ⟨declaration, hget⟩ := exists_get hcurrent
        obtain ⟨locals, hscope⟩ := ih (hclosed.lt_of_previous? hget)
          (List.nodup_cons.mpr ⟨hmem, hnodup⟩) (List.forall_mem_cons.mpr ⟨hcurrent, hpassed⟩)
          (by rw [List.length_cons]; omega)
        exact ⟨current :: locals, .step hmem hget hscope⟩

theorem Closed.exists_scope (hclosed : arena.Closed) (hlast : ∀ id ∈ last, id.number < arena.size) :
    ∃ locals, Scope arena [] last locals :=
  hclosed.exists_scope_of_passed (arena.size + 1) hlast List.nodup_nil (List.forall_mem_nil _)
    (by simp)

/-- The check of a jump always comes to an answer. -/
theorem Closed.exists_checkJump (hclosed : arena.Closed)
    (hsource : ∀ id ∈ source, id.number < arena.size)
    (htarget : ∀ id ∈ target, id.number < arena.size) (span : Span) :
    ∃ answer, arena.checkJump source target span = .ok answer := by
  obtain ⟨sourceLocals, hsourceScope⟩ := hclosed.exists_scope hsource
  obtain ⟨targetLocals, htargetScope⟩ := hclosed.exists_scope htarget
  exact ⟨_, checkJump_of_scopes hsourceScope htargetScope span⟩

namespace Scope

/-- The scope lists the declarations of the chain in their order. -/
theorem stepsBack_eq (hscope : Scope arena passed last locals) {steps : Nat}
    (hsteps : steps < locals.length) : arena.stepsBack steps last = some locals[steps] := by
  induction hscope generalizing steps with
  | bottom | back => simp at hsteps
  | step _ get_eq _ ih =>
    cases steps with
    | zero => rfl
    | succ steps =>
      rw [stepsBack, Option.bind_some, previous?_of_get get_eq]
      exact ih (by simpa using hsteps)

/-- From a declaration in scope the chain stays in scope. -/
theorem mem_of_stepsBack (hscope : Scope arena [] last locals) {current : DeclId}
    (hcurrent : current ∈ locals) {steps : Nat}
    (hback : arena.stepsBack steps (some current) = some id) : id ∈ locals := by
  induction steps generalizing current with
  | zero => exact Option.some.inj hback ▸ hcurrent
  | succ steps ih =>
    obtain ⟨declaration, hget⟩ := hscope.exists_get current hcurrent
    rw [stepsBack, Option.bind_some, previous?_of_get hget] at hback
    cases hprevious : declaration.previous? with
    | none => simp [hprevious] at hback
    | some previous =>
      rw [hprevious] at hback
      have hmem : previous ∈ locals := by
        simpa using hscope.mem_of_previous hcurrent hget hprevious
      exact ih hmem hback

theorem mem_iff_onChain (hscope : Scope arena [] last locals) :
    id ∈ locals ↔ arena.OnChain last id := by
  constructor
  · intro hmem
    obtain ⟨steps, hsteps, rfl⟩ := List.mem_iff_getElem.mp hmem
    exact ⟨steps, hscope.stepsBack_eq hsteps⟩
  · rintro ⟨steps, hback⟩
    cases hscope with
    | bottom => simp at hback
    | back mem => contradiction
    | @step _ locals current _ notMem get_eq rest =>
      exact mem_of_stepsBack (.step notMem get_eq rest) List.mem_cons_self hback

end Scope

/-! ## What the check finds -/

section

variable (hsource : Scope arena [] source sourceLocals)
  (htarget : Scope arena [] target targetLocals)

include hsource htarget

theorem jumpsOver_iff_of_scopes : arena.JumpsOver source target id ↔
    id ∈ targetLocals ∧ (decide (id ∉ sourceLocals) && arena.needs id) = true := by
  simp [JumpsOver, needs_iff, ← hsource.mem_iff_onChain, ← htarget.mem_iff_onChain]

theorem jumpError_eq_none_iff_of_scopes {span : Span} :
    arena.jumpError sourceLocals targetLocals span = none ↔
      ∀ id, ¬arena.JumpsOver source target id := by
  simp only [jumpError, Option.map_eq_none_iff, List.find?_eq_none,
    jumpsOver_iff_of_scopes hsource htarget, not_and]

theorem find?_eq_some_iff_jumpsOverFirst :
    (targetLocals.find? fun id => id ∉ sourceLocals && arena.needs id) = some id ↔
      arena.JumpsOverFirst source target id := by
  have hover : ∀ id, arena.JumpsOver source target id ↔
      id ∈ targetLocals ∧ (decide (id ∉ sourceLocals) && arena.needs id) = true :=
    fun _ => jumpsOver_iff_of_scopes hsource htarget
  rw [List.find?_eq_some_iff_getElem]
  constructor
  · rintro ⟨hneeded, steps, hsteps, rfl, hfewer⟩
    refine ⟨steps, htarget.stepsBack_eq hsteps,
      (hover _).mpr ⟨List.getElem_mem hsteps, hneeded⟩, fun fewer hlt other hback hother => ?_⟩
    have hbound : fewer < targetLocals.length := by omega
    rw [htarget.stepsBack_eq hbound, Option.some.injEq] at hback
    subst hback
    have hpassed := hfewer fewer hlt
    rw [((hover _).mp hother).2] at hpassed
    contradiction
  · rintro ⟨steps, hback, hjumps, hfirst⟩
    obtain ⟨hmem, hneeded⟩ := (hover id).mp hjumps
    -- In a circle there are longer ways to the same declaration, but none of them is the first.
    have hsteps : steps < targetLocals.length := by
      obtain ⟨index, hindex, hfound⟩ := List.mem_iff_getElem.mp hmem
      by_contra hbeyond
      have hindexBack := htarget.stepsBack_eq hindex
      rw [hfound] at hindexBack
      exact hfirst index (by omega) id hindexBack hjumps
    rw [htarget.stepsBack_eq hsteps, Option.some.injEq] at hback
    refine ⟨hneeded, steps, hsteps, hback, fun fewer hlt => ?_⟩
    have hbound : fewer < targetLocals.length := by omega
    rw [Bool.not_eq_true', ← Bool.not_eq_true]
    intro hneeds
    exact hfirst fewer hlt _ (htarget.stepsBack_eq hbound)
      ((hover _).mpr ⟨List.getElem_mem hbound, hneeds⟩)

/-- The error of a jump names the first declaration that it leaves out. -/
theorem jumpError_eq_some_iff_of_scopes {span : Span} {cause : DeclError} :
    arena.jumpError sourceLocals targetLocals span = some cause ↔
      ∃ id, arena.JumpsOverFirst source target id ∧ cause = .gotoSkipsInitializer id span := by
  simp only [jumpError, Option.map_eq_some_iff, find?_eq_some_iff_jumpsOverFirst hsource htarget]
  exact exists_congr fun id => and_congr_right fun _ => eq_comm

end

theorem answerOf_eq_ok_iff {error : Option DeclError} : answerOf error = .ok () ↔ error = none := by
  cases error <;> simp [answerOf]

theorem answerOf_eq_error_iff {error : Option DeclError} {cause : DeclError} :
    answerOf error = .error cause ↔ error = some cause := by
  cases error <;> simp [answerOf]

/-- The check of a jump always comes to an answer, also when the chains lead in a circle.  The jump
is refused exactly if some declaration on the chain of the label is not on that of the jump and is
needed, and the error names the first such declaration on the way back from the label. -/
theorem Closed.checkJump_exact (hclosed : arena.Closed)
    (hsource : ∀ id ∈ source, id.number < arena.size)
    (htarget : ∀ id ∈ target, id.number < arena.size) (span : Span) :
    ∃ answer, arena.checkJump source target span = .ok answer ∧
      (answer = .ok () ↔ ¬∃ id, arena.JumpsOver source target id) ∧
      ∀ cause, answer = .error cause ↔
        ∃ id, arena.JumpsOverFirst source target id ∧ cause = .gotoSkipsInitializer id span := by
  obtain ⟨sourceLocals, hsourceScope⟩ := hclosed.exists_scope hsource
  obtain ⟨targetLocals, htargetScope⟩ := hclosed.exists_scope htarget
  refine ⟨_, checkJump_of_scopes hsourceScope htargetScope span, ?_, fun cause => ?_⟩
  · rw [answerOf_eq_ok_iff, jumpError_eq_none_iff_of_scopes hsourceScope htargetScope, not_exists]
  · rw [answerOf_eq_error_iff, jumpError_eq_some_iff_of_scopes hsourceScope htargetScope]

/-- A function with three variables.  The first two are each declared before the other, and the
second one before the third. -/
def circularLocals : Arena where
  declarations :=
    let declaredAfter (previous : DeclId) : Declaration :=
      { name := .anonymous, span := .synthetic, owner := .function ⟨0⟩
        entity := .var { initializer := some (.expression ⟨0⟩), previous := some previous } }
    #[.func .anonymous .synthetic .plain [],
      declaredAfter ⟨2⟩, declaredAfter ⟨1⟩, declaredAfter ⟨2⟩]

theorem Closed.checkJump_exact_circularLocals :
    circularLocals.Closed ∧ (∀ id ∈ some (⟨1⟩ : DeclId), id.number < circularLocals.size) ∧
    (∀ id ∈ some (⟨3⟩ : DeclId), id.number < circularLocals.size) ∧
    ∃ answer, circularLocals.checkJump (some ⟨1⟩) (some ⟨3⟩) .synthetic = .ok answer ∧
      (answer = .ok () ↔ ¬∃ id, circularLocals.JumpsOver (some ⟨1⟩) (some ⟨3⟩) id) ∧
      ∀ cause, answer = .error cause ↔
        ∃ id, circularLocals.JumpsOverFirst (some ⟨1⟩) (some ⟨3⟩) id ∧
          cause = .gotoSkipsInitializer id .synthetic := by
  have hclosed : circularLocals.Closed := by decide
  exact ⟨hclosed, by decide, by decide, hclosed.checkJump_exact (by decide) (by decide) .synthetic⟩

/-- A jump back onto the circle is allowed, and one from it to the third variable is not. -/
example : (do return (← circularLocals.checkJump (some ⟨3⟩) (some ⟨1⟩) .synthetic,
    ← circularLocals.checkJump (some ⟨1⟩) (some ⟨3⟩) .synthetic)) =
      .ok (.ok (), .error (.gotoSkipsInitializer ⟨3⟩ .synthetic)) :=
  rfl

end Arena

end Declarations
