import Declarations.Jump
import Declarations.Proofs.Arena.Closed

/-!
# The locals in scope

The locals in scope at a place are those of the chain that begins with the last one.  The check of a
jump goes through two such chains.  What it reads from them is stated here in terms of the two
lists: the chains are compared only up to the first local that they share, but from there on they
share everything.
-/

namespace Declarations

namespace Declaration

/-- Somebody can tell that the declaration was jumped over: it is in no storage that exists from the
start, and it is a temporary of an expression or has an initializer that does something. -/
def IsNeeded (declaration : Declaration) : Prop :=
  .manifest ∉ declaration.storage ∧ declaration.hasStaticStorage = false ∧
    (.expTemp ∈ declaration.storage ∨
      ∃ state, declaration.asVariable? = some state ∧ state.hasNontrivialInitializer = true)

theorem canBeSkipped_eq_false_iff {declaration : Declaration} :
    declaration.canBeSkipped = false ↔ declaration.IsNeeded := by
  simp [canBeSkipped, IsNeeded, FlagSet.mem_iff, and_assoc, Option.any_eq_true, imp_iff_not_or]

end Declaration

namespace Arena

def IsNeeded (arena : Arena) (id : DeclId) : Prop :=
  ∃ declaration, arena.get id = .ok declaration ∧ declaration.IsNeeded

def needs (arena : Arena) (id : DeclId) : Bool :=
  (arena.get id).toOption.any fun declaration => !declaration.canBeSkipped

/-- The locals of the chain that begins with `last`, except that the chain ends where it comes to
one that was passed. -/
inductive Scope (arena : Arena) : List DeclId → Option DeclId → List DeclId → Prop where
  | bottom {passed : List DeclId} : Scope arena passed none []
  | back {passed : List DeclId} {last : DeclId} (mem : last ∈ passed) :
      Scope arena passed (some last) []
  | step {passed locals : List DeclId} {last : DeclId} {declaration : Declaration}
      (notMem : last ∉ passed) (get_eq : arena.get last = .ok declaration)
      (rest : Scope arena (last :: passed) declaration.previous? locals) :
      Scope arena passed (some last) (last :: locals)

/-- The error of a jump: the first local in scope at the label, but not at the jump, that is
needed. -/
def jumpError (arena : Arena) (sourceLocals targetLocals : List DeclId) (span : Span) :
    Option DeclError :=
  (targetLocals.find? fun id => id ∉ sourceLocals && arena.needs id).map
    (.gotoSkipsInitializer · span)

def answerOf : Option DeclError → Except DeclError Unit
  | some cause => .error cause
  | none => .ok ()

variable {arena before after : Arena} {passed wider locals visible sourceLocals targetLocals :
  List DeclId} {last source target : Option DeclId} {id : DeclId} {declaration : Declaration}

theorem needs_iff : arena.needs id = true ↔ arena.IsNeeded id := by
  simp only [needs, IsNeeded, ← Declaration.canBeSkipped_eq_false_iff]
  cases arena.get id <;> simp [Except.toOption]

theorem needs_of_get (hget : arena.get id = .ok declaration) :
    arena.needs id = !declaration.canBeSkipped := by
  simp [needs, hget, Except.toOption]

namespace Scope

theorem exists_get (hscope : Scope arena passed last locals) :
    ∀ id ∈ locals, ∃ declaration, arena.get id = .ok declaration := by
  induction hscope with
  | bottom | back => simp
  | @step _ _ _ declaration _ get_eq _ ih =>
    exact List.forall_mem_cons.mpr ⟨⟨declaration, get_eq⟩, ih⟩

theorem notMem_passed (hscope : Scope arena passed last locals) : ∀ id ∈ locals, id ∉ passed := by
  induction hscope with
  | bottom | back => simp
  | step notMem _ _ ih =>
    refine List.forall_mem_cons.mpr ⟨notMem, fun id hid hpassed => ?_⟩
    exact ih id hid (List.mem_cons_of_mem _ hpassed)

theorem nodup (hscope : Scope arena passed last locals) : locals.Nodup := by
  induction hscope with
  | bottom | back => exact List.nodup_nil
  | step _ _ rest ih =>
    exact List.nodup_cons.mpr ⟨fun hmem => rest.notMem_passed _ hmem List.mem_cons_self, ih⟩

theorem length_le (hscope : Scope arena passed last locals) : locals.length ≤ arena.size := by
  refine DeclId.length_le_of_nodup hscope.nodup fun id hid => ?_
  obtain ⟨declaration, hget⟩ := hscope.exists_get id hid
  exact lt_of_get hget

/-- The local before one in scope is in scope, unless it was passed. -/
theorem mem_of_previous (hscope : Scope arena passed last locals) {previous : DeclId}
    (hid : id ∈ locals) (hget : arena.get id = .ok declaration)
    (hprevious : previous ∈ declaration.previous?) : previous ∈ locals ∨ previous ∈ passed := by
  induction hscope with
  | bottom | back => contradiction
  | @step passed locals last found _ get_eq rest ih =>
    have hahead : previous ∈ last :: passed → previous ∈ last :: locals ∨ previous ∈ passed := by
      rw [List.mem_cons, List.mem_cons]
      exact fun hmem => hmem.imp_left .inl
    obtain rfl | hmem := List.mem_cons.mp hid
    · obtain rfl : found = declaration := Except.ok.inj (get_eq.symm.trans hget)
      rw [hprevious] at rest
      cases rest with
      | back mem => exact hahead mem
      | step => exact .inl (by simp)
    · obtain hlocal | hpassed := ih hmem
      · exact .inl (List.mem_cons_of_mem _ hlocal)
      · exact hahead hpassed

/-- A chain that has come to a set with the predecessors of its members stays in it. -/
theorem subset_of_mem (hscope : Scope arena passed last locals)
    (hclosed : ∀ id ∈ visible, ∀ declaration, arena.get id = .ok declaration →
      ∀ previous ∈ declaration.previous?, previous ∈ visible)
    (hlast : ∀ id ∈ last, id ∈ visible) : ∀ id ∈ locals, id ∈ visible := by
  induction hscope with
  | bottom | back => simp
  | @step _ _ current declaration _ get_eq _ ih =>
    have hcurrent := hlast current rfl
    exact List.forall_mem_cons.mpr ⟨hcurrent, ih (hclosed current hcurrent declaration get_eq)⟩

/-- The scope is the same where the same locals come before those in it. -/
theorem congr (hscope : Scope before passed last locals)
    (hsame : ∀ id ∈ locals, (after.get id).map Declaration.previous? =
      (before.get id).map Declaration.previous?) : Scope after passed last locals := by
  induction hscope with
  | bottom => exact .bottom
  | back mem => exact .back mem
  | @step _ _ current declaration notMem get_eq _ ih =>
    obtain ⟨hcurrent, hothers⟩ := List.forall_mem_cons.mp hsame
    rw [get_eq, ok_map] at hcurrent
    cases hafter : after.get current with
    | error fault =>
      rw [hafter, error_map] at hcurrent
      contradiction
    | ok next =>
      rw [hafter, ok_map, Except.ok.injEq] at hcurrent
      exact .step notMem hafter (hcurrent ▸ ih hothers)

/-- It makes no difference to have passed what is not in the scope. -/
theorem widen (hscope : Scope arena passed last locals) (hsubset : ∀ id ∈ passed, id ∈ wider)
    (hfresh : ∀ id ∈ locals, id ∉ wider) : Scope arena wider last locals := by
  induction hscope generalizing wider with
  | bottom => exact .bottom
  | back mem => exact .back (hsubset _ mem)
  | @step passed locals current declaration notMem get_eq rest ih =>
    obtain ⟨hcurrent, hothers⟩ := List.forall_mem_cons.mp hfresh
    refine .step hcurrent get_eq (ih (fun id hid => ?_) fun id hid hwider => ?_)
    · exact List.mem_cons.mpr ((List.mem_cons.mp hid).imp_right (hsubset id))
    · obtain rfl | hwider := List.mem_cons.mp hwider
      · exact rest.notMem_passed _ hid List.mem_cons_self
      · exact hothers id hid hwider

/-! ## What a check reads -/

theorem scopeChain_eq (hscope : Scope arena passed last locals) {steps : Nat}
    (hsteps : locals.length < steps) :
    arena.scopeChain steps passed last = .ok (locals.reverse ++ passed) := by
  obtain ⟨steps, rfl⟩ : ∃ fewer, steps = fewer + 1 := ⟨steps - 1, by omega⟩
  induction hscope generalizing steps with
  | bottom => rfl
  | back mem => simp [scopeChain, mem]
  | step notMem get_eq _ ih =>
    rw [List.length_cons] at hsteps
    obtain ⟨fewer, rfl⟩ : ∃ fewer, steps = fewer + 1 := ⟨steps - 1, by omega⟩
    rw [scopeChain, if_neg notMem, get_eq, ok_bind, ih fewer (by omega)]
    simp

theorem firstNeeded?_eq (hscope : Scope arena passed last locals) (visible : List DeclId)
    {steps : Nat} (hsteps : locals.length < steps) :
    arena.firstNeeded? visible steps passed last =
      .ok ((locals.takeWhile (· ∉ visible)).find? arena.needs) := by
  obtain ⟨steps, rfl⟩ : ∃ fewer, steps = fewer + 1 := ⟨steps - 1, by omega⟩
  induction hscope generalizing steps with
  | bottom => rfl
  | back mem => simp [firstNeeded?, mem]
  | @step _ _ current declaration notMem get_eq _ ih =>
    rw [List.length_cons] at hsteps
    obtain ⟨fewer, rfl⟩ : ∃ fewer, steps = fewer + 1 := ⟨steps - 1, by omega⟩
    by_cases hvisible : current ∈ visible
    · simp [firstNeeded?, hvisible]
    · have hneeds := needs_of_get get_eq
      rw [firstNeeded?, if_neg (by simp [hvisible, notMem]), get_eq, ok_bind,
        List.takeWhile_cons_of_pos (by simp [hvisible]), List.find?_cons, hneeds]
      cases declaration.canBeSkipped with
      | false => rfl
      | true => exact ih fewer (by omega)

/-- Behind the first shared local there is nothing that is not shared. -/
theorem find?_takeWhile_eq (hscope : Scope arena passed last locals)
    (hclosed : ∀ id ∈ visible, ∀ declaration, arena.get id = .ok declaration →
      ∀ previous ∈ declaration.previous?, previous ∈ visible) (wanted : DeclId → Bool) :
    (locals.takeWhile (· ∉ visible)).find? wanted =
      locals.find? fun id => id ∉ visible && wanted id := by
  induction hscope with
  | bottom | back => rfl
  | @step _ locals current declaration _ get_eq rest ih =>
    by_cases hcurrent : current ∈ visible
    · have hothers := rest.subset_of_mem hclosed (hclosed current hcurrent declaration get_eq)
      rw [List.takeWhile_cons_of_neg (by simp [hcurrent]), List.find?_nil, eq_comm,
        List.find?_eq_none]
      exact List.forall_mem_cons.mpr ⟨by simp [hcurrent], fun id hid => by simp [hothers id hid]⟩
    · rw [List.takeWhile_cons_of_pos (by simp [hcurrent]), List.find?_cons, List.find?_cons, ih]
      simp [hcurrent]

end Scope

/-- The check of a jump finds the first local in scope at the label, but not at the jump, that is
needed. -/
theorem checkJump_of_scopes (hsource : Scope arena [] source sourceLocals)
    (htarget : Scope arena [] target targetLocals) (span : Span) :
    arena.checkJump source target span =
      .ok (answerOf (arena.jumpError sourceLocals targetLocals span)) := by
  have hsourceSteps : sourceLocals.length < arena.size + 2 := by
    have := hsource.length_le
    omega
  have htargetSteps : targetLocals.length < arena.size + 2 := by
    have := htarget.length_le
    omega
  have hclosed : ∀ id ∈ sourceLocals.reverse ++ [], ∀ declaration,
      arena.get id = .ok declaration → ∀ previous ∈ declaration.previous?,
        previous ∈ sourceLocals.reverse ++ [] := by
    simp only [List.append_nil, List.mem_reverse]
    intro id hid declaration hget previous hprevious
    simpa using hsource.mem_of_previous hid hget hprevious
  rw [checkJump, hsource.scopeChain_eq hsourceSteps, ok_bind,
    htarget.firstNeeded?_eq _ htargetSteps, ok_bind, htarget.find?_takeWhile_eq hclosed]
  simp only [List.append_nil, List.mem_reverse, jumpError]
  cases targetLocals.find? fun id => id ∉ sourceLocals && arena.needs id <;> rfl

end Arena

end Declarations
