import Declarations.Fault

/-!
# Operations that may meet a fault

An operation of the arena gives an answer or meets a fault, and a sequence of operations answers
exactly when each of them does.  Proofs about an operation use these equations to go through it one
answer at a time.
-/

namespace Declarations

variable {α β γ δ : Type}

@[simp]
theorem pure_eq_ok (answer : α) : (pure answer : Except Fault α) = .ok answer :=
  rfl

@[simp]
theorem ok_bind (answer : α) (next : α → Except Fault β) :
    (Except.ok answer >>= next) = next answer :=
  rfl

@[simp]
theorem error_bind (fault : Fault) (next : α → Except Fault β) :
    (Except.error fault >>= next) = .error fault :=
  rfl

@[simp]
theorem ok_map (change : α → β) (answer : α) :
    (Except.ok answer : Except Fault α).map change = .ok (change answer) :=
  rfl

@[simp]
theorem error_map (change : α → β) (fault : Fault) :
    (Except.error fault : Except Fault α).map change = .error fault :=
  rfl

/-- An answer that is changed before it is used is used in its changed form. -/
@[simp]
theorem map_bind (first : Except Fault α) (change : α → β) (next : β → Except Fault γ) :
    (first.map change >>= next) = first >>= fun answer => next (change answer) := by
  cases first <;> rfl

/-- A sequence of two operations answers when the first one answers and the second one answers with
that. -/
theorem bind_eq_ok_iff {first : Except Fault α} {next : α → Except Fault β} {answer : β} :
    (first >>= next) = .ok answer ↔ ∃ middle, first = .ok middle ∧ next middle = .ok answer := by
  cases first <;> simp

/-- A sequence of two operations answers when the first one answers and the second one answers with
whatever that is. -/
theorem exists_ok_bind {first : Except Fault α} {next : α → Except Fault β}
    (hfirst : ∃ middle, first = .ok middle)
    (hnext : ∀ middle, first = .ok middle → ∃ answer, next middle = .ok answer) :
    ∃ answer, (first >>= next) = .ok answer := by
  obtain ⟨middle, hmiddle⟩ := hfirst
  rw [hmiddle, ok_bind]
  exact hnext middle hmiddle

/-- An operation on each member of a list answers when it does for every one of them. -/
theorem exists_mapM {act : α → Except Fault β} {inputs : List α}
    (hact : ∀ input ∈ inputs, ∃ answer, act input = .ok answer) :
    ∃ answers, inputs.mapM act = .ok answers ∧
      ∀ answer, answer ∈ answers ↔ ∃ input ∈ inputs, act input = .ok answer := by
  induction inputs with
  | nil => exact ⟨[], rfl, by simp⟩
  | cons input inputs ih =>
    obtain ⟨answer, hanswer⟩ := hact input List.mem_cons_self
    obtain ⟨answers, hanswers, hmem⟩ :=
      ih fun other hother => hact other (List.mem_cons_of_mem input hother)
    refine ⟨answer :: answers, by simp [hanswer, hanswers], ?_⟩
    simp [hmem, hanswer, eq_comm]

/-- An operation that answers by a function answers a list member by member. -/
theorem mapM_eq_ok_map {act : α → Except Fault β} {inputs : List α} (answer : α → β)
    (hact : ∀ input ∈ inputs, act input = .ok (answer input)) :
    inputs.mapM act = .ok (inputs.map answer) := by
  induction inputs with
  | nil => rfl
  | cons input inputs ih =>
    obtain ⟨hinput, hothers⟩ := List.forall_mem_cons.mp hact
    rw [List.mapM_cons, hinput, ok_bind, ih hothers, ok_bind, pure_eq_ok, List.map_cons]

/-- The answers for the members of a list can be changed before they are listed, or afterwards. -/
theorem mapM_change {act : α → Except Fault β} {inputs : List α} (change : β → γ) :
    (inputs.mapM fun input => (act input).map change) =
      (inputs.mapM act).map (List.map change) := by
  induction inputs with
  | nil => rfl
  | cons input inputs ih =>
    rw [List.mapM_cons, List.mapM_cons, ih]
    cases act input with
    | error fault => rfl
    | ok answer => cases inputs.mapM act <;> rfl

/-- Two searches through a list come to the same end when their steps agree on every state that can
come up. -/
theorem exists_foldlM {left right : β → α → Except Fault β} {holds : β → Prop} {inputs : List α}
    (hstep : ∀ state, holds state → ∀ input ∈ inputs, ∃ next, left state input = .ok next ∧
      right state input = .ok next ∧ holds next) {state : β} (hstate : holds state) :
    ∃ last, inputs.foldlM left state = .ok last ∧ inputs.foldlM right state = .ok last ∧
      holds last := by
  induction inputs generalizing state with
  | nil => exact ⟨state, rfl, rfl, hstate⟩
  | cons input inputs ih =>
    obtain ⟨next, hleft, hright, hnext⟩ := hstep state hstate input List.mem_cons_self
    obtain ⟨last, hlast⟩ := ih
      (fun other hother input hinput => hstep other hother input (List.mem_cons_of_mem _ hinput))
      hnext
    refine ⟨last, ?_⟩
    rwa [List.foldlM_cons, hleft, ok_bind, List.foldlM_cons, hright, ok_bind]

/-- What every step of a search through a list keeps is kept by the whole search. -/
theorem foldlM_keeps {act : β → α → Except Fault β} {holds : β → Prop} {inputs : List α}
    (hstep : ∀ state, holds state → ∀ input ∈ inputs, ∀ next, act state input = .ok next →
      holds next) {state last : β} (hstate : holds state)
    (hrun : inputs.foldlM act state = .ok last) : holds last := by
  induction inputs generalizing state with
  | nil =>
    cases hrun
    exact hstate
  | cons input inputs ih =>
    obtain ⟨middle, hmiddle, hrest⟩ := bind_eq_ok_iff.mp hrun
    have hnext : holds middle := hstep state hstate input List.mem_cons_self middle hmiddle
    apply ih _ hnext hrest
    intro other hother later hlater
    exact hstep other hother later (List.mem_cons_of_mem input hlater)

/-! ## Two operations side by side -/

/-- Two operations look alike through a view of their answers: both meet the same fault, or the view
shows no difference between the answers. -/
def Alike (view : α → γ) (first other : Except Fault α) : Prop :=
  first.map view = other.map view

namespace Alike

variable {view : α → γ} {shown : β → δ} {first other : Except Fault α}

theorem ok {left right : α} (hview : view left = view right) :
    Alike view (.ok left) (.ok right) :=
  congrArg Except.ok hview

theorem refl (first : Except Fault α) : Alike view first first :=
  Eq.refl (first.map view)

/-- Operations that look alike go on to look alike when what follows does on answers between which
the view shows no difference. -/
theorem bind {next later : α → Except Fault β} (hfirst : Alike view first other)
    (hnext : ∀ left right, view left = view right → Alike shown (next left) (later right)) :
    Alike shown (first >>= next) (other >>= later) := by
  unfold Alike at hfirst
  cases first with
  | error fault =>
    cases other with
    | error another =>
      rw [error_map, error_map, Except.error.injEq] at hfirst
      rw [hfirst]
      exact .refl _
    | ok right => contradiction
  | ok left =>
    cases other with
    | error another => contradiction
    | ok right => exact hnext left right (Except.ok.inj hfirst)

/-- What is read alike is used alike. -/
theorem bind_same (first : Except Fault α) {next later : α → Except Fault β}
    (hnext : ∀ answer, Alike shown (next answer) (later answer)) :
    Alike shown (first >>= next) (first >>= later) := by
  cases first with
  | error fault => exact .refl _
  | ok answer => exact hnext answer

/-- An answer is shown in full, and what comes with it through the view. -/
theorem answer {answer : β} {left right : α} (hview : view left = view right) :
    Alike (Prod.map id view) (.ok (answer, left)) (.ok (answer, right)) :=
  .ok (Prod.ext rfl hview)

/-- Operations that show their answers in full go on to look alike when what follows each answer
does. -/
theorem bind_answer {answers : Type} {first other : Except Fault (answers × α)}
    {next later : answers × α → Except Fault β} (hfirst : Alike (Prod.map id view) first other)
    (hnext : ∀ answer left right, view left = view right →
      Alike shown (next (answer, left)) (later (answer, right))) :
    Alike shown (first >>= next) (other >>= later) := by
  apply hfirst.bind
  intro left right hview
  obtain ⟨hanswer, hview⟩ := Prod.mk.inj hview
  obtain ⟨answer, left⟩ := left
  obtain ⟨_, right⟩ := right
  obtain rfl : answer = _ := hanswer
  exact hnext answer left right hview

/-- The same holds for a search through a list. -/
theorem foldlM {state : Type} {view : state → γ} {step : state → β → Except Fault state}
    (hstep : ∀ left right input, view left = view right →
      Alike view (step left input) (step right input))
    {inputs : List β} {left right : state} (hview : view left = view right) :
    Alike view (inputs.foldlM step left) (inputs.foldlM step right) := by
  induction inputs generalizing left right with
  | nil => exact .ok hview
  | cons input inputs ih =>
    rw [List.foldlM_cons, List.foldlM_cons]
    exact (hstep left right input hview).bind fun _ _ => ih

end Alike

/-- Two operations both answer, and their answers are related. -/
def BothAnswer (related : α → β → Prop) (first : Except Fault α) (second : Except Fault β) : Prop :=
  ∃ left right, first = .ok left ∧ second = .ok right ∧ related left right

namespace BothAnswer

variable {related : α → β → Prop} {linked : γ → δ → Prop}

theorem ok {left : α} {right : β} (hrelated : related left right) :
    BothAnswer related (.ok left) (.ok right) :=
  ⟨left, right, rfl, rfl, hrelated⟩

theorem bind {first : Except Fault α} {second : Except Fault β} {next : α → Except Fault γ}
    {later : β → Except Fault δ} (hfirst : BothAnswer related first second)
    (hnext : ∀ left right, related left right → BothAnswer linked (next left) (later right)) :
    BothAnswer linked (first >>= next) (second >>= later) := by
  obtain ⟨left, right, rfl, rfl, hrelated⟩ := hfirst
  exact hnext left right hrelated

end BothAnswer

end Declarations
