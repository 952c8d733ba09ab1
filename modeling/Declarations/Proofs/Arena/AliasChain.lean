import Declarations.Arena.AliasChain
import Declarations.Proofs.Arena.Change
import Declarations.Proofs.Arena.Links

/-!
# What an alias finally names

A walk along a chain of aliases comes to the end of the chain, unless the chain leads to an alias
that another walk is passing through, or back to one that it has passed itself.  Then the walk
answers with an error that names this alias.  The counters that the walk has raised on its way are
lowered again in both cases, so the arena is left exactly as it was.
-/

namespace Declarations

namespace Declaration

/-- What a walk along aliases answers if it stops at the declaration. -/
def aliasAnswer (declaration : Declaration) (id : DeclId) : Except DeclError DeclId :=
  match declaration.standsFor? with
  | none => .ok id
  | some _ => .error (.recursiveAlias declaration.name declaration.span)

variable {declaration : Declaration} {id named : DeclId} {cause : DeclError}

theorem aliasAnswer_eq_ok_iff :
    declaration.aliasAnswer id = .ok named ↔ declaration.standsFor? = none ∧ id = named := by
  unfold aliasAnswer
  split <;> simp [*]

theorem aliasAnswer_eq_error_iff :
    declaration.aliasAnswer id = .error cause ↔
      declaration.standsFor? ≠ none ∧
        cause = .recursiveAlias declaration.name declaration.span := by
  unfold aliasAnswer
  split <;> simp [*, eq_comm]

theorem mem_handles_of_standsFor? (hnamed : declaration.standsFor? = some named) :
    named ∈ declaration.handles := by
  unfold standsFor? at hnamed
  split at hnamed
  · next state hentity => simp [handles, hentity, Entity.handles, hnamed]
  · next state hentity => simp [handles, hentity, Entity.handles, hnamed]
  · contradiction

end Declaration

namespace Arena

variable {arena entered : Arena} {id target last named other : DeclId} {declaration : Declaration}
  {passed : List DeclId} {cause : DeclError}

def standsFor? (arena : Arena) (id : DeclId) : Option DeclId :=
  match arena.get id with
  | .ok declaration => declaration.standsFor?
  | .error _ => none

/-- Some walk along aliases is passing through the declaration. -/
def IsBusy (arena : Arena) (id : DeclId) : Prop :=
  ∃ declaration, arena.get id = .ok declaration ∧ 0 < declaration.inUse

/-- The chain of an alias ends at a declaration, and no walk is passing through what lies before. -/
structure EndsAt (arena : Arena) (id : DeclId) (passed : List DeclId) (named : DeclId) : Prop where
  passes : Passes arena.standsFor? id passed named
  idle : ∀ earlier ∈ passed, ¬arena.IsBusy earlier
  standsFor?_eq : arena.standsFor? named = none

/-- The chain of an alias leads to an alias that a walk is passing through, or back to one that it
has passed, and nothing that lies before is such an alias. -/
structure HaltsAt (arena : Arena) (id : DeclId) (passed : List DeclId) (halting : DeclId) :
    Prop where
  passes : Passes arena.standsFor? id passed halting
  nodup : passed.Nodup
  idle : ∀ earlier ∈ passed, ¬arena.IsBusy earlier
  standsFor?_ne : arena.standsFor? halting ≠ none
  busy_or_again : arena.IsBusy halting ∨ halting ∈ passed

theorem standsFor?_of_get (hget : arena.get id = .ok declaration) :
    arena.standsFor? id = declaration.standsFor? :=
  linked_of_get Declaration.standsFor? hget

theorem isBusy_iff_of_get (hget : arena.get id = .ok declaration) :
    arena.IsBusy id ↔ 0 < declaration.inUse := by
  simp [IsBusy, hget]

theorem exists_get_of_standsFor? (htarget : arena.standsFor? id = some target) :
    ∃ declaration, arena.get id = .ok declaration ∧ declaration.standsFor? = some target :=
  linked_eq_some_iff.mp htarget

theorem Closed.lt_of_standsFor? (hclosed : arena.Closed)
    (htarget : arena.standsFor? id = some target) : target.number < arena.size :=
  hclosed.lt_of_linked (fun _ _ => Declaration.mem_handles_of_standsFor?) htarget

/-! ## Counting a walk -/

theorem standsFor?_of_countWalks {count : Nat → Nat}
    (hcount : arena.countWalks id count = .ok entered) : entered.standsFor? = arena.standsFor? := by
  funext other
  have hsame : (entered.get other).map Declaration.standsFor? =
      (arena.get other).map Declaration.standsFor? :=
    map_get_of_change (get_of_modify hcount) (fun _ => rfl) other
  simp only [standsFor?]
  cases hafter : entered.get other <;> cases hbefore : arena.get other <;> simp_all

/-- The answer of a walk that stops at a declaration does not depend on the counter. -/
theorem aliasAnswer_of_countWalks {count : Nat → Nat}
    (hcount : arena.countWalks id count = .ok entered) (last : DeclId) :
    (entered.get last).map (·.aliasAnswer last) = (arena.get last).map (·.aliasAnswer last) :=
  map_get_of_change (get_of_modify hcount) (fun _ => rfl) last

/-- A declaration is busy when a walk has entered it, and no other one becomes so. -/
theorem isBusy_of_countWalks (hcount : arena.countWalks id (· + 1) = .ok entered) :
    entered.IsBusy other ↔ other = id ∨ arena.IsBusy other := by
  obtain ⟨declaration, hget⟩ := exists_get (lt_of_modify hcount)
  by_cases hsame : other = id
  · subst hsame
    have hraised : entered.get other =
        .ok { declaration with inUse := declaration.inUse + 1 } := by
      rw [get_of_modify hcount, if_pos rfl, hget, ok_map]
    simp [isBusy_iff_of_get hraised]
  · simp [IsBusy, get_of_modify hcount, hsame]

/-- A walk that is left again has never been there. -/
theorem countWalks_back (hcount : arena.countWalks id (· + 1) = .ok entered) :
    entered.countWalks id (· - 1) = .ok arena := by
  have hid : id.number < entered.size := size_of_modify hcount ▸ lt_of_modify hcount
  obtain ⟨left, hleft⟩ : ∃ left, entered.countWalks id (· - 1) = .ok left := exists_modify _ hid
  have hget : ∀ other, left.get other = arena.get other := by
    intro other
    rw [get_of_modify hleft, get_of_modify hcount]
    split
    · cases arena.get other <;> rfl
    · rfl
  have haggregates : left.aggregates = arena.aggregates :=
    (aggregates_of_modify hleft).trans (aggregates_of_modify hcount)
  have hnext : left.nextSequence = arena.nextSequence :=
    (nextSequence_of_modify hleft).trans (nextSequence_of_modify hcount)
  rw [hleft, eq_of_get hget haggregates hnext]

/-- Behind the first alias of a chain a walk stops where it would have stopped anyway: the first
alias is busy now, where it had been passed. -/
theorem stops_of_countWalks (hcount : arena.countWalks id (· + 1) = .ok entered)
    (htarget : arena.standsFor? id = some target)
    (hstops : Stops arena.standsFor? arena.IsBusy id (id :: passed) last) :
    Stops entered.standsFor? entered.IsBusy target passed last where
  passes := by
    rw [standsFor?_of_countWalks hcount]
    cases hstops.passes with
    | link next_eq rest =>
      obtain rfl := Option.some.inj (htarget.symm.trans next_eq)
      exact rest
  nodup := hstops.nodup.of_cons
  goes_on earlier hearlier := by
    rw [isBusy_of_countWalks hcount]
    rintro (rfl | hbusy)
    · exact (List.nodup_cons.mp hstops.nodup).1 hearlier
    · exact hstops.goes_on earlier (List.mem_cons_of_mem _ hearlier) hbusy
  stops := by
    rw [standsFor?_of_countWalks hcount, isBusy_of_countWalks hcount]
    have hstop := hstops.stops
    rw [List.mem_cons] at hstop
    tauto

/-! ## The answer of a walk -/

/-- A walk that is allowed enough steps answers where it stops, and leaves the arena as it was. -/
theorem followAliases_eq {depth : Nat}
    (hstops : Stops arena.standsFor? arena.IsBusy id passed last) (hdepth : passed.length < depth) :
    followAliases depth arena id =
      (arena.get last).map fun declaration => (declaration.aliasAnswer last, arena) := by
  induction passed generalizing arena id depth with
  | nil =>
    obtain ⟨depth, rfl⟩ := Nat.exists_eq_succ_of_ne_zero (Nat.ne_zero_of_lt hdepth)
    obtain rfl : id = last := by
      cases hstops.passes
      rfl
    cases hget : arena.get id with
    | error fault => simp [followAliases, hget]
    | ok declaration =>
      simp only [followAliases, hget, ok_bind, ok_map, Declaration.aliasAnswer]
      cases hstands : declaration.standsFor? with
      | none => rfl
      | some target =>
        have hbusy : 0 < declaration.inUse := by
          simpa [standsFor?_of_get hget, hstands, isBusy_iff_of_get hget] using hstops.stops
        simp [hbusy]
  | cons first passed ih =>
    obtain ⟨depth, rfl⟩ := Nat.exists_eq_succ_of_ne_zero (Nat.ne_zero_of_lt hdepth)
    obtain ⟨rfl, target, htarget⟩ : first = id ∧ ∃ target, arena.standsFor? id = some target := by
      cases hstops.passes with
      | link next_eq rest => exact ⟨rfl, _, next_eq⟩
    obtain ⟨declaration, hget, hstands⟩ := exists_get_of_standsFor? htarget
    have hfree : declaration.inUse = 0 := by
      have hidle := hstops.goes_on first List.mem_cons_self
      rw [isBusy_iff_of_get hget] at hidle
      omega
    obtain ⟨entered, hentered⟩ : ∃ entered, arena.countWalks first (· + 1) = .ok entered :=
      exists_modify _ (lt_of_get hget)
    have hrest := ih (stops_of_countWalks hentered htarget hstops)
      (Nat.lt_of_succ_lt_succ hdepth)
    have hanswer := aliasAnswer_of_countWalks hentered last
    simp only [followAliases, hget, ok_bind, hstands, hfree, Nat.lt_irrefl, if_false, hentered,
      hrest]
    cases hlast : arena.get last <;> cases henter : entered.get last <;>
      simp_all [countWalks_back hentered]

/-- The chain of an alias ends where a walk stops without an error. -/
theorem exists_endsAt_iff (hstops : Stops arena.standsFor? arena.IsBusy id passed last) :
    (∃ before, arena.EndsAt id before named) ↔ arena.standsFor? last = none ∧ last = named := by
  constructor
  · rintro ⟨before, hends⟩
    have hnodup := hends.passes.nodup_of_next_eq_none hends.standsFor?_eq
    obtain rfl := (hstops.unique ⟨hends.passes, hnodup, hends.idle, .inl hends.standsFor?_eq⟩).2
    exact ⟨hends.standsFor?_eq, rfl⟩
  · rintro ⟨hnone, rfl⟩
    exact ⟨passed, hstops.passes, hstops.goes_on, hnone⟩

/-- The chain of an alias must not be followed further where a walk stops with an error. -/
theorem exists_haltsAt_iff (hstops : Stops arena.standsFor? arena.IsBusy id passed last) :
    (∃ before, arena.HaltsAt id before other) ↔ arena.standsFor? last ≠ none ∧ last = other := by
  constructor
  · rintro ⟨before, hhalts⟩
    obtain rfl :=
      (hstops.unique ⟨hhalts.passes, hhalts.nodup, hhalts.idle, .inr hhalts.busy_or_again⟩).2
    exact ⟨hhalts.standsFor?_ne, rfl⟩
  · rintro ⟨hsome, rfl⟩
    exact ⟨passed, hstops.passes, hstops.nodup, hstops.goes_on, hsome,
      hstops.stops.resolve_left hsome⟩

/-- Finding out what a declaration finally names leaves the arena as it was.  The answer is the end
of the chain of aliases if it has one and no walk is passing through what lies before, and otherwise
an error that names the first alias that a walk is passing through or to which the chain comes
back. -/
theorem Closed.resolveAlias_exact (hclosed : arena.Closed) (hid : id.number < arena.size) :
    ∃ answer, arena.resolveAlias id = .ok (answer, arena) ∧
      (∀ named, answer = .ok named ↔ ∃ passed, arena.EndsAt id passed named) ∧
      (∀ cause, answer = .error cause ↔ ∃ halting, (∃ passed, arena.HaltsAt id passed halting) ∧
        ∃ declaration, arena.get halting = .ok declaration ∧
          cause = .recursiveAlias declaration.name declaration.span) := by
  have hbound : ∀ id target, arena.standsFor? id = some target → target.number < arena.size :=
    fun _ _ => hclosed.lt_of_standsFor?
  obtain ⟨passed, last, hstops⟩ := Stops.exists_of_bound arena.IsBusy hid hbound
  obtain ⟨declaration, hget⟩ := exists_get (hstops.passes.lt_of_bound hid hbound).2
  have hdepth : passed.length < arena.size + 1 := Nat.lt_succ_of_le (hstops.length_le hid hbound)
  refine ⟨declaration.aliasAnswer last, ?_, ?_, ?_⟩
  · rw [resolveAlias, followAliases_eq hstops hdepth, hget, ok_map]
  · intro named
    rw [Declaration.aliasAnswer_eq_ok_iff, exists_endsAt_iff hstops, standsFor?_of_get hget]
  · intro cause
    rw [Declaration.aliasAnswer_eq_error_iff]
    simp only [exists_haltsAt_iff hstops, standsFor?_of_get hget]
    constructor
    · rintro ⟨hsome, rfl⟩
      exact ⟨last, ⟨hsome, rfl⟩, declaration, hget, rfl⟩
    · rintro ⟨halting, ⟨hsome, rfl⟩, found, hfound, rfl⟩
      obtain rfl := Except.ok.inj (hget.symm.trans hfound)
      exact ⟨hsome, rfl⟩

/-- An alias of a variable that is another name for an alias of that variable, an alias that two
walks are passing through, and an alias of that one. -/
def tailIntoRing : Arena where
  declarations := #[
    .aliasing ⟨11⟩ ⟨1, 2⟩ { target := some ⟨1⟩ },
    { Declaration.var ⟨12⟩ ⟨3, 4⟩ none with entity := .var { standsFor := some ⟨2⟩ } },
    .aliasing ⟨13⟩ ⟨5, 6⟩ { target := some ⟨1⟩ },
    { Declaration.aliasing ⟨14⟩ ⟨7, 8⟩ { target := some ⟨1⟩ } with inUse := 2 },
    .aliasing ⟨15⟩ ⟨9, 10⟩ { target := some ⟨3⟩ }]
  nextSequence := 1

theorem Closed.resolveAlias_exact_tailIntoRing :
    (tailIntoRing.Closed ∧ (⟨0⟩ : DeclId).number < tailIntoRing.size) ∧
    ∃ answer, tailIntoRing.resolveAlias ⟨0⟩ = .ok (answer, tailIntoRing) ∧
      (∀ named, answer = .ok named ↔ ∃ passed, tailIntoRing.EndsAt ⟨0⟩ passed named) ∧
      (∀ cause, answer = .error cause ↔
        ∃ halting, (∃ passed, tailIntoRing.HaltsAt ⟨0⟩ passed halting) ∧
          ∃ declaration, tailIntoRing.get halting = .ok declaration ∧
            cause = .recursiveAlias declaration.name declaration.span) := by
  have hclosed : tailIntoRing.Closed := by decide
  exact ⟨⟨hclosed, by decide⟩, hclosed.resolveAlias_exact (by decide)⟩

-- The error names the variable, to which the chain comes back, and not the alias before it.
example : tailIntoRing.resolveAlias ⟨0⟩ =
    .ok (.error (.recursiveAlias ⟨12⟩ ⟨3, 4⟩), tailIntoRing) := rfl

end Arena

end Declarations
