import Declarations.Proofs.Overload.Call

/-!
# Visits that stop early

A tour of an overload set shows its functions to a visit, which may be done before all of them were
shown.  Being done only cuts the tour short: the visit is called with the functions of the set in
their order, up to the first one after which it is done, and the tour comes out as the visit did.
Every question that stops at the first function of some kind is a question about the list of the
functions then: whether a set has one function only, which one is the first of a type, and whether
any of them may be used.
-/

namespace Declarations

namespace Visit

variable {σ : Type} {visit : σ → DeclId → Except Fault (ForInStep σ)} {seen middle last : σ}
  {functions : List DeclId}

inductive GoesOn (visit : σ → DeclId → Except Fault (ForInStep σ)) :
    σ → List DeclId → σ → Prop where
  | nil (seen : σ) : GoesOn visit seen [] seen
  | cons {seen next last : σ} {function : DeclId} {functions : List DeclId}
      (visit_eq : visit seen function = .ok (.yield next))
      (rest : GoesOn visit next functions last) : GoesOn visit seen (function :: functions) last

/-- The same visit with a journal of the functions that it is called with. -/
def journal (visit : σ → DeclId → Except Fault (ForInStep σ)) (seen : List DeclId × σ)
    (function : DeclId) : Except Fault (ForInStep (List DeclId × σ)) := do
  match ← visit seen.2 function with
  | .done result => return .done (seen.1 ++ [function], result)
  | .yield result => return .yield (seen.1 ++ [function], result)

/-- The functions after which a visit goes on can be shown first. -/
theorem GoesOn.showEach_append (hgoes : GoesOn visit seen functions middle)
    (later : List DeclId) :
    showEach visit (functions ++ later) seen = showEach visit later middle := by
  induction hgoes with
  | nil => rfl
  | cons visit_eq _ ih =>
    rw [List.cons_append, showEach, visit_eq, ok_bind]
    exact ih

/-- Whether a visit goes on does not depend on the journal, and it notes all of the functions. -/
theorem GoesOn.journal (hgoes : GoesOn visit seen functions last) (noted : List DeclId) :
    GoesOn (journal visit) (noted, seen) functions (noted ++ functions, last) := by
  induction hgoes generalizing noted with
  | nil =>
    rw [List.append_nil]
    exact .nil _
  | @cons seen next _ function _ visit_eq _ ih =>
    have hnoted : Visit.journal visit (noted, seen) function =
        .ok (.yield (noted ++ [function], next)) := by
      rw [Visit.journal, visit_eq, ok_bind]
      rfl
    rw [List.append_cons]
    exact .cons hnoted (ih (noted ++ [function]))

/-- A visit goes on after all functions, or up to one after which it does not. -/
theorem exists_goesOn (visit : σ → DeclId → Except Fault (ForInStep σ)) (functions : List DeclId)
    (seen : σ) :
    (∃ last, GoesOn visit seen functions last) ∨
      ∃ earlier function later middle, functions = earlier ++ function :: later ∧
        GoesOn visit seen earlier middle ∧ ∀ next, visit middle function ≠ .ok (.yield next) := by
  induction functions generalizing seen with
  | nil => exact .inl ⟨seen, .nil seen⟩
  | cons function functions ih =>
    by_cases hvisit : ∃ next, visit seen function = .ok (.yield next)
    · obtain ⟨next, hnext⟩ := hvisit
      obtain ⟨last, hgoes⟩ | ⟨earlier, other, later, middle, rfl, hgoes, hstops⟩ := ih next
      · exact .inl ⟨last, .cons hnext hgoes⟩
      · exact .inr ⟨function :: earlier, other, later, middle, rfl, .cons hnext hgoes, hstops⟩
    · exact .inr ⟨[], function, functions, seen, rfl, .nil seen, not_exists.mp hvisit⟩

/-- A visit that is done at the first function of some kind, and sees the same until then. -/
theorem showEach_search (holds : DeclId → Bool) (hit : DeclId → σ) {miss : σ}
    (hvisit : ∀ function ∈ functions, visit miss function =
      .ok (if holds function then .done (hit function) else .yield miss)) :
    showEach visit functions miss = .ok (match functions.find? holds with
      | some function => .done (hit function)
      | none => .yield miss) := by
  induction functions with
  | nil => rfl
  | cons function functions ih =>
    obtain ⟨hfunction, hothers⟩ := List.forall_mem_cons.mp hvisit
    rw [showEach, hfunction, ok_bind, List.find?_cons]
    cases holds function with
    | true => rfl
    | false => exact ih hothers

end Visit

open Visit

namespace Arena

variable {arena : Arena} {start id : DeclId} {functions : List DeclId} {type : TypeRef}

/-- A tour calls a visit with the functions in their order up to the first one after which it does
not go on, and comes out as the visit does. -/
inductive StopsWith (arena : Arena) (start : DeclId) (functions : List DeclId) {σ : Type}
    (visit : σ → DeclId → Except Fault (ForInStep σ)) (seen : σ) : Prop where
  /-- The visit goes on after every function. -/
  | finished {last : σ} (goesOn : GoesOn visit seen functions last)
      (tour_eq : arena.tour start seen visit = .ok (.yield last))
      (journal_eq : arena.tour start ([], seen) (journal visit) = .ok (.yield (functions, last)))
  /-- The visit is done after a function, and is called with none of the later ones. -/
  | stopped {earlier later : List DeclId} {function : DeclId} {middle result : σ}
      (functions_eq : functions = earlier ++ function :: later)
      (goesOn : GoesOn visit seen earlier middle)
      (visit_eq : visit middle function = .ok (.done result))
      (tour_eq : arena.tour start seen visit = .ok (.done result))
      (journal_eq : arena.tour start ([], seen) (journal visit) =
        .ok (.done (earlier ++ [function], result)))
  /-- The visit meets a fault. -/
  | failed {earlier later : List DeclId} {function : DeclId} {middle : σ} {fault : Fault}
      (functions_eq : functions = earlier ++ function :: later)
      (goesOn : GoesOn visit seen earlier middle)
      (visit_eq : visit middle function = .error fault)
      (tour_eq : arena.tour start seen visit = .error fault)

/-- What is shown to every visit stops with it. -/
theorem stopsWith_of_tour_eq
    (htour : ∀ {σ : Type} (visit : σ → DeclId → Except Fault (ForInStep σ)) (seen : σ),
      arena.tour start seen visit = showEach visit functions seen)
    {σ : Type} (visit : σ → DeclId → Except Fault (ForInStep σ)) (seen : σ) :
    arena.StopsWith start functions visit seen := by
  obtain ⟨last, hgoes⟩ | ⟨earlier, function, later, middle, rfl, hgoes, hstops⟩ :=
    exists_goesOn visit functions seen
  · have hshown := hgoes.showEach_append []
    have hnoted := (hgoes.journal []).showEach_append []
    rw [List.append_nil] at hshown hnoted
    exact .finished hgoes (by rw [htour, hshown, showEach]) (by rw [htour, hnoted]; rfl)
  · cases hvisit : visit middle function with
    | error fault =>
      refine .failed rfl hgoes hvisit ?_
      rw [htour, hgoes.showEach_append, showEach, hvisit, error_bind]
    | ok step =>
      cases step with
      | yield next => exact absurd hvisit (hstops next)
      | done result =>
        refine .stopped rfl hgoes hvisit ?_ ?_
        · rw [htour, hgoes.showEach_append, showEach, hvisit]
          rfl
        · rw [htour, (hgoes.journal []).showEach_append, showEach, journal, hvisit]
          rfl

/-! ## Questions that stop early -/

def hasType (arena : Arena) (type : TypeRef) (id : DeclId) : Bool :=
  (arena.get id).toOption.any fun declaration => declaration.type = some type

def isEnabled (arena : Arena) (id : DeclId) : Bool :=
  (arena.get id).toOption.any fun declaration => !declaration.isDisabled

/-- The functions of an overload set, as every tour shows them. -/
structure Shown (arena : Arena) (start : DeclId) (functions : List DeclId) : Prop where
  isFunction : ∀ function ∈ functions, arena.IsFunction function
  tour_eq : ∀ {σ : Type} (visit : σ → DeclId → Except Fault (ForInStep σ)) (seen : σ),
    arena.tour start seen visit = showEach visit functions seen

/-- A set has an only function if its list has one member. -/
theorem Shown.onlyCandidate? (hshown : arena.Shown start functions) :
    ∃ only, arena.onlyCandidate? start = .ok only ∧
      ∀ function, only = some function ↔ functions = [function] := by
  rw [Arena.onlyCandidate?, hshown.tour_eq]
  match functions with
  | [] => exact ⟨none, rfl, by simp⟩
  | [first] => exact ⟨some first, rfl, by simp⟩
  | first :: second :: others => exact ⟨none, rfl, by simp⟩

theorem Shown.candidateOfType? (hshown : arena.Shown start functions) (type : TypeRef) :
    arena.candidateOfType? start type = .ok (functions.find? (arena.hasType type)) := by
  rw [Arena.candidateOfType?, hshown.tour_eq,
    showEach_search (arena.hasType type) some fun function hmem => ?_]
  · cases functions.find? (arena.hasType type) <;> rfl
  · obtain ⟨declaration, hget, -⟩ := hshown.isFunction function hmem
    simp only [hget, ok_bind, hasType, Except.toOption, Option.any_some, decide_eq_true_eq]
    split <;> rfl

theorem isEnabled_iff {declaration : Declaration} (hget : arena.get id = .ok declaration) :
    arena.isEnabled id = true ↔ ¬arena.IsDisabled id := by
  simp [isEnabled, hget, Except.toOption, isDisabled_iff hget]

/-- A set has a function that is not disabled if its list has one. -/
theorem Shown.anyEnabled (hshown : arena.Shown start functions) :
    ∃ enabled, arena.anyEnabled start = .ok enabled ∧
      (enabled = true ↔ ∃ function ∈ functions, ¬arena.IsDisabled function) := by
  have henabled : ∀ function ∈ functions,
      (arena.isEnabled function = true ↔ ¬arena.IsDisabled function) := by
    intro function hmem
    obtain ⟨declaration, hget, -⟩ := hshown.isFunction function hmem
    exact isEnabled_iff hget
  refine ⟨(functions.find? arena.isEnabled).isSome, ?_, ?_⟩
  · rw [Arena.anyEnabled, hshown.tour_eq,
      showEach_search arena.isEnabled (fun _ => true) fun function hmem => ?_]
    · cases functions.find? arena.isEnabled <;> rfl
    · obtain ⟨declaration, hget, -⟩ := hshown.isFunction function hmem
      simp only [hget, ok_bind, isEnabled, Except.toOption, Option.any_some]
      cases declaration.isDisabled <;> rfl
  · rw [List.find?_isSome]
    exact exists_congr fun function => and_congr_right (henabled function)

/-- The check of a use that names a whole set of functions, the first of which is disabled, outside
disabled functions. -/
theorem Shown.checkUsable (hshown : arena.Shown start functions) {site : UseSite}
    (hsite : ∀ function ∈ site.function, function.number < arena.size)
    (hfunction : arena.IsFunction start) (hdisabled : arena.IsDisabled start)
    (houtside : ¬∃ function ∈ site.function, arena.IsDisabled function) :
    ∃ answer, arena.checkUsable start site true = .ok answer ∧
      (answer = .ok () ↔ ∃ function ∈ functions, ¬arena.IsDisabled function) ∧
      (answer = .error (.disabled start site.span) ↔
        ∀ function ∈ functions, arena.IsDisabled function) := by
  obtain ⟨declaration, hget, hisFunction⟩ := hfunction
  obtain ⟨inside, hinside, hiff⟩ := exists_isDisabledSite hsite
  obtain ⟨enabled, henabled, hsome⟩ := hshown.anyEnabled
  obtain rfl : inside = false := Bool.eq_false_iff.mpr fun htrue => houtside (hiff.mp htrue)
  have hnone : (∀ function ∈ functions, arena.IsDisabled function) ↔ enabled = false := by
    rw [Bool.eq_false_iff, ne_eq, hsome]
    simp
  rw [isDisabled_iff hget] at hdisabled
  refine ⟨if enabled then .ok () else .error (.disabled start site.span), ?_, ?_⟩
  · simp [Arena.checkUsable, hget, hdisabled, hinside, hisFunction, henabled]
  · rw [← hsome, hnone]
    cases enabled <;> simp

/-- The list of the functions of an overload set is what every tour shows. -/
theorem Closed.exists_candidates_shown (hclosed : arena.Closed)
    (hstart : start.number < arena.size) :
    ∃ functions, arena.candidates start = .ok functions ∧ arena.Shown start functions := by
  obtain ⟨functions, hcandidates, -, hoffered, htour⟩ := hclosed.exists_candidates hstart
  refine ⟨functions, hcandidates, ?_, htour⟩
  intro function hmem
  obtain ⟨node, -, hoffers⟩ := (hoffered function).mp hmem
  exact hoffers.isFunction

/-- A visit that is done early cuts the tour short, and does nothing else to it.  So a set has an
only function just if that is all of its list, the function of a type that is found is the first one
of the list, and a disabled function may be used outside disabled functions, when its whole set is
named, just if some function of the list is not disabled. -/
theorem Closed.visits_cut_short (hclosed : arena.Closed) (hstart : start.number < arena.size) :
    ∃ functions, arena.candidates start = .ok functions ∧
      (∀ {σ : Type} (visit : σ → DeclId → Except Fault (ForInStep σ)) (seen : σ),
        arena.StopsWith start functions visit seen) ∧
      (∃ only, arena.onlyCandidate? start = .ok only ∧
        ∀ function, only = some function ↔ functions = [function]) ∧
      (∀ type, arena.candidateOfType? start type =
        .ok (functions.find? (arena.hasType type))) ∧
      ∀ site : UseSite, (∀ function ∈ site.function, function.number < arena.size) →
        arena.IsFunction start → arena.IsDisabled start →
        (¬∃ function ∈ site.function, arena.IsDisabled function) →
        ∃ answer, arena.checkUsable start site true = .ok answer ∧
          (answer = .ok () ↔ ∃ function ∈ functions, ¬arena.IsDisabled function) ∧
          (answer = .error (.disabled start site.span) ↔
            ∀ function ∈ functions, arena.IsDisabled function) := by
  obtain ⟨functions, hcandidates, hshown⟩ := hclosed.exists_candidates_shown hstart
  exact ⟨functions, hcandidates, stopsWith_of_tour_eq hshown.tour_eq, hshown.onlyCandidate?,
    hshown.candidateOfType?, fun site hsite hfunction hdisabled houtside =>
      hshown.checkUsable hsite hfunction hdisabled houtside⟩

/-- A disabled function with an overload of a type of its own that may be used. -/
def partlyDisabled : Arena where
  declarations := #[{ Declaration.func .anonymous .synthetic .plain [] with
      storage := {.disable}
      entity := .func { next := some ⟨1⟩ } },
    { Declaration.func .anonymous .synthetic .plain [] with type := some ⟨20⟩ }]

theorem Closed.visits_cut_short_partlyDisabled :
    partlyDisabled.Closed ∧ (0 : Nat) < partlyDisabled.size ∧
    partlyDisabled.IsFunction ⟨0⟩ ∧ partlyDisabled.IsDisabled ⟨0⟩ ∧
    ∃ functions, partlyDisabled.candidates ⟨0⟩ = .ok functions ∧
      (∀ {σ : Type} (visit : σ → DeclId → Except Fault (ForInStep σ)) (seen : σ),
        partlyDisabled.StopsWith ⟨0⟩ functions visit seen) ∧
      (∃ only, partlyDisabled.onlyCandidate? ⟨0⟩ = .ok only ∧
        ∀ function, only = some function ↔ functions = [function]) ∧
      (∀ type, partlyDisabled.candidateOfType? ⟨0⟩ type =
        .ok (functions.find? (partlyDisabled.hasType type))) ∧
      ∃ answer, partlyDisabled.checkUsable ⟨0⟩ ⟨none, .synthetic⟩ true = .ok answer ∧
        (answer = .ok () ↔ ∃ function ∈ functions, ¬partlyDisabled.IsDisabled function) ∧
        (answer = .error (.disabled ⟨0⟩ .synthetic) ↔
          ∀ function ∈ functions, partlyDisabled.IsDisabled function) := by
  have hclosed : partlyDisabled.Closed := by decide
  have hstart : (⟨0⟩ : DeclId).number < partlyDisabled.size := by decide
  have hfunction : partlyDisabled.IsFunction ⟨0⟩ := ⟨_, rfl, rfl⟩
  have hdisabled : partlyDisabled.IsDisabled ⟨0⟩ := ⟨_, rfl, rfl⟩
  obtain ⟨functions, hcandidates, hstops, honly, htype, husable⟩ := hclosed.visits_cut_short hstart
  exact ⟨hclosed, hstart, hfunction, hdisabled, functions, hcandidates, hstops, honly, htype,
    husable ⟨none, .synthetic⟩ (by simp) hfunction hdisabled (by simp)⟩

end Arena

end Declarations
