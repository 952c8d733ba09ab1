import Declarations.Proofs.Overload.Resolution

/-!
# Breaking a tie

Two candidates that fit a call equally well are told apart by three criteria, one after the other:
one of them overrides the other, or defines what the other one declares, or is more specialized.
Each criterion answers the other way round when the candidates change places, and then it is silent
in the same cases, so the whole order does.  The only exception are two functions each of which says
that it overrides the other: both of them lose.
-/

namespace Declarations

/-- Levels that change places are in the opposite order. -/
theorem MatchLevel.order_comm (left right : MatchLevel) :
    right.order left = (left.order right).swap :=
  (Nat.compare_swap left.rank right.rank).symm

namespace Declaration

variable {challenging holding : Declaration} {challenger holder : DeclId}

theorem sameFunction_comm {left right : Declaration} :
    left.sameFunction right = right.sameFunction left := by
  rw [Bool.eq_iff_iff]
  simp only [sameFunction, Bool.and_eq_true, decide_eq_true_iff]
  constructor
  all_goals
    rintro ⟨⟨⟨⟨⟨htyped, htype⟩, hstorage⟩, howner⟩, hvisibility⟩, hlinkage⟩
    exact ⟨⟨⟨⟨⟨htype ▸ htyped, htype.symm⟩, hstorage.symm⟩, howner.symm⟩, hvisibility.symm⟩,
      hlinkage.symm⟩

/-- The order of two candidates as far as one of them overrides the other.  That the holder
overrides the challenger counts first. -/
def overridingOrder (challenging holding : Declaration) (challenger holder : DeclId) : Ordering :=
  if holding.overrides challenger then .lt
  else if challenging.overrides holder then .gt
  else .eq

/-- The order of two candidates as far as one of them defines what the other one declares. -/
def definitionOrder (challenging holding : Declaration) : Ordering :=
  if challenging.sameFunction holding && challenging.hasBody != holding.hasBody then
    if challenging.hasBody then .gt else .lt
  else .eq

/-- The order of two candidates as far as their declarations tell. -/
def statedOrder (challenging holding : Declaration) (challenger holder : DeclId) : Ordering :=
  (challenging.overridingOrder holding challenger holder).then (challenging.definitionOrder holding)

theorem overridingOrder_comm
    (hone : ¬(challenging.overrides holder = true ∧ holding.overrides challenger = true)) :
    holding.overridingOrder challenging holder challenger =
      (challenging.overridingOrder holding challenger holder).swap := by
  unfold overridingOrder
  cases hforth : challenging.overrides holder with
  | false => cases holding.overrides challenger <;> rfl
  | true =>
    have hback : holding.overrides challenger = false := by simpa [hforth] using hone
    simp [hback]

theorem definitionOrder_comm (challenging holding : Declaration) :
    holding.definitionOrder challenging = (challenging.definitionOrder holding).swap := by
  unfold definitionOrder
  rw [sameFunction_comm]
  cases challenging.sameFunction holding with
  | false => rfl
  | true => cases challenging.hasBody <;> cases holding.hasBody <;> rfl

theorem statedOrder_comm
    (hone : ¬(challenging.overrides holder = true ∧ holding.overrides challenger = true)) :
    holding.statedOrder challenging holder challenger =
      (challenging.statedOrder holding challenger holder).swap := by
  rw [statedOrder, statedOrder, overridingOrder_comm hone, definitionOrder_comm,
    Ordering.swap_then]

end Declaration

namespace Arena

variable {arena : Arena} {oracle : MatchOracle} {challenger holder : DeclId}
  {challenging holding : Declaration} {order : Ordering}

def Overrides (arena : Arena) (function base : DeclId) : Prop :=
  ∃ declaration, arena.get function = .ok declaration ∧ declaration.overrides base = true

theorem overrides_iff_of_get (hget : arena.get challenger = .ok challenging) :
    arena.Overrides challenger holder ↔ challenging.overrides holder = true := by
  simp [Overrides, hget]

def specializedOrder (arena : Arena) (oracle : MatchOracle) (challenger holder : DeclId) :
    Except Fault Ordering := do
  let forward ← arena.asSpecialized oracle challenger holder
  let backward ← arena.asSpecialized oracle holder challenger
  return forward.order backward

theorem specializedOrder_comm
    (horder : arena.specializedOrder oracle challenger holder = .ok order) :
    arena.specializedOrder oracle holder challenger = .ok order.swap := by
  obtain ⟨forward, hforward, hrest⟩ := bind_eq_ok_iff.mp horder
  obtain ⟨backward, hbackward, hrest⟩ := bind_eq_ok_iff.mp hrest
  obtain rfl := Except.ok.inj hrest
  rw [specializedOrder, hbackward, ok_bind, hforward, ok_bind, MatchLevel.order_comm, pure_eq_ok]

/-- The order of two candidates that fit equally well. -/
theorem breakTie_of_get (hchallenging : arena.get challenger = .ok challenging)
    (hholding : arena.get holder = .ok holding) :
    arena.breakTie oracle challenger holder =
      if holding.overrides challenger then .ok .lt
      else if challenging.overrides holder then .ok .gt
      else if challenging.sameFunction holding && challenging.hasBody != holding.hasBody then
        .ok (if challenging.hasBody then .gt else .lt)
      else
        arena.asSpecialized oracle challenger holder >>= fun forward =>
          arena.asSpecialized oracle holder challenger >>= fun backward =>
            .ok (forward.order backward) := by
  rw [breakTie, hchallenging, ok_bind, hholding, ok_bind]
  rfl

/-- The more specialized candidate is looked for only where the declarations do not tell. -/
theorem breakTie_eq_of_statedOrder (hchallenging : arena.get challenger = .ok challenging)
    (hholding : arena.get holder = .ok holding) :
    arena.breakTie oracle challenger holder =
      match challenging.statedOrder holding challenger holder with
      | .eq => arena.specializedOrder oracle challenger holder
      | decided => .ok decided := by
  rw [breakTie_of_get hchallenging hholding, Declaration.statedOrder, Declaration.overridingOrder,
    Declaration.definitionOrder]
  split
  · rfl
  · split
    · rfl
    · split
      · cases challenging.hasBody <;> rfl
      · rfl

/-- A holder that overrides the challenger is preferred to it. -/
theorem breakTie_of_overrides (hchallenging : arena.get challenger = .ok challenging)
    (hoverrides : arena.Overrides holder challenger) :
    arena.breakTie oracle challenger holder = .ok .lt := by
  obtain ⟨holding, hholding, hover⟩ := hoverrides
  rw [breakTie_of_get hchallenging hholding, if_pos hover]

/-- Candidates that change places are in the opposite order, unless each overrides the other. -/
theorem breakTie_comm (hone : ¬(arena.Overrides challenger holder ∧
      arena.Overrides holder challenger))
    (horder : arena.breakTie oracle challenger holder = .ok order) :
    arena.breakTie oracle holder challenger = .ok order.swap := by
  obtain ⟨challenging, hchallenging, hrest⟩ := bind_eq_ok_iff.mp horder
  obtain ⟨holding, hholding, -⟩ := bind_eq_ok_iff.mp hrest
  rw [overrides_iff_of_get hchallenging, overrides_iff_of_get hholding] at hone
  rw [breakTie_eq_of_statedOrder hchallenging hholding] at horder
  rw [breakTie_eq_of_statedOrder hholding hchallenging, Declaration.statedOrder_comm hone]
  cases hstated : challenging.statedOrder holding challenger holder with
  | eq =>
    rw [hstated] at horder
    exact specializedOrder_comm horder
  | lt | gt =>
    rw [hstated] at horder
    obtain rfl := Except.ok.inj horder
    rfl

/-- A challenger that is not worse than the holder is not overridden by it, so the two do not
override each other. -/
theorem not_overrides_of_breakTie (horder : arena.breakTie oracle challenger holder = .ok order)
    (hnotWorse : order ≠ .lt) : ¬(arena.Overrides challenger holder ∧
      arena.Overrides holder challenger) := by
  rintro ⟨-, hoverrides⟩
  obtain ⟨challenging, hchallenging, -⟩ := bind_eq_ok_iff.mp horder
  rw [breakTie_of_overrides hchallenging hoverrides] at horder
  exact hnotWorse (Except.ok.inj horder).symm

/-- Two candidates can be put in order whichever of them is asked about first, and the two answers
agree exactly if the candidates do not override each other. -/
theorem Closed.breakTie_antisymm (hclosed : arena.Closed) {left right : DeclId}
    (hleft : left.number < arena.size) (hright : right.number < arena.size)
    (oracle : MatchOracle) :
    ∃ forth back, arena.breakTie oracle left right = .ok forth ∧
      arena.breakTie oracle right left = .ok back ∧
      ((forth = .gt ↔ back = .lt) ∧ (forth = .eq ↔ back = .eq) ↔
        ¬(arena.Overrides left right ∧ arena.Overrides right left)) := by
  obtain ⟨forth, hforth⟩ := hclosed.breakTie hleft hright oracle
  by_cases hboth : arena.Overrides left right ∧ arena.Overrides right left
  · obtain ⟨leftDeclaration, hgetLeft⟩ := exists_get hleft
    obtain ⟨rightDeclaration, hgetRight⟩ := exists_get hright
    refine ⟨.lt, .lt, breakTie_of_overrides hgetLeft hboth.2,
      breakTie_of_overrides hgetRight hboth.1, ?_⟩
    simp [hboth]
  · refine ⟨forth, forth.swap, hforth, breakTie_comm hboth hforth, ?_⟩
    simp [hboth, Ordering.swap_eq_lt, Ordering.swap_eq_eq]

/-- A declaration, its definition, and two functions that override each other, one of which
overrides the definition as well. -/
def overridingOverloads : Arena where
  declarations := #[
    (Declaration.func .anonymous .synthetic .plain []).withType ⟨20⟩,
    ((Declaration.func .anonymous .synthetic .plain []).withType ⟨20⟩).mapFunc fun state =>
      { state with body := some {} },
    (Declaration.func .anonymous .synthetic .plain []).mapFunc fun state =>
      { state with overrides := [⟨1⟩, ⟨3⟩] },
    (Declaration.func .anonymous .synthetic .plain []).mapFunc fun state =>
      { state with overrides := [⟨2⟩] }]

/-- Of the definition and a function that overrides it, the latter is better either way. -/
theorem Closed.breakTie_antisymm_overridingOverloads :
    overridingOverloads.Closed ∧ (⟨1⟩ : DeclId).number < overridingOverloads.size ∧
    (⟨2⟩ : DeclId).number < overridingOverloads.size ∧
    ∃ forth back, overridingOverloads.breakTie (fun _ _ _ => .exact) ⟨1⟩ ⟨2⟩ = .ok forth ∧
      overridingOverloads.breakTie (fun _ _ _ => .exact) ⟨2⟩ ⟨1⟩ = .ok back ∧
      ((forth = .gt ↔ back = .lt) ∧ (forth = .eq ↔ back = .eq) ↔
        ¬(overridingOverloads.Overrides ⟨1⟩ ⟨2⟩ ∧ overridingOverloads.Overrides ⟨2⟩ ⟨1⟩)) := by
  have hclosed : overridingOverloads.Closed := by decide
  have hleft : (⟨1⟩ : DeclId).number < overridingOverloads.size := by decide
  have hright : (⟨2⟩ : DeclId).number < overridingOverloads.size := by decide
  exact ⟨hclosed, hleft, hright, hclosed.breakTie_antisymm hleft hright fun _ _ _ => .exact⟩

-- Each of the two functions that override each other loses against the other one.
example : overridingOverloads.breakTie (fun _ _ _ => .exact) ⟨2⟩ ⟨3⟩ = .ok .lt ∧
    overridingOverloads.breakTie (fun _ _ _ => .exact) ⟨3⟩ ⟨2⟩ = .ok .lt :=
  ⟨rfl, rfl⟩

end Arena

end Declarations
