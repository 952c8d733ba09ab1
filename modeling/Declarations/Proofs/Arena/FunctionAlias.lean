import Declarations.Arena.AliasChain
import Declarations.Proofs.Arena.Change
import Declarations.Proofs.Arena.Links

/-!
# What a function alias finally names

A function alias is followed to the function that it names, through other aliases if need be.  The
walk takes no more steps than there are declarations, and it stops before it comes back to where it
began.  Neither of the two keeps it from the end of a chain that has one, so what such a chain names
is named by its end as well.  Only on a ring of several aliases it is different: there every alias
stands for the one before it, and never for itself.
-/

namespace Declarations.Arena

open Relation

def AliasOf (arena : Arena) (id target : DeclId) : Prop :=
  ∃ declaration, arena.get id = .ok declaration ∧ declaration.aliasedFunction? = some target

def IsProper (arena : Arena) (id : DeclId) : Prop :=
  ∀ declaration, arena.get id = .ok declaration → declaration.aliasedFunction? = none

/-- The declaration is no other name for another function: it is no function alias at all, or an
alias of itself. -/
def StandsForItself (arena : Arena) (id : DeclId) : Prop :=
  ∀ target, arena.AliasOf id target → target = id

/-- Function aliases lead from the declaration into a ring of more than one of them. -/
def RunsIntoRing (arena : Arena) (id : DeclId) : Prop :=
  ∃ member, ReflTransGen arena.AliasOf id member ∧ TransGen arena.AliasOf member member ∧
    ¬arena.AliasOf member member

variable {arena : Arena} {id start current target last function : DeclId} {passed : List DeclId}
  {steps : Nat}

theorem aliasOf_eq (arena : Arena) :
    arena.AliasOf = LinksTo (arena.linked Declaration.aliasedFunction?) := by
  funext id target
  exact propext linked_eq_some_iff.symm

theorem IsProper.standsForItself (hproper : arena.IsProper id) : arena.StandsForItself id := by
  rintro target ⟨declaration, hget, halias⟩
  rw [hproper declaration hget] at halias
  contradiction

/-! ## Rings -/

/-- Nothing is reached from a declaration that stands for itself. -/
theorem StandsForItself.eq_of_reaches (hitself : arena.StandsForItself id)
    (hreach : ReflTransGen arena.AliasOf id last) : last = id := by
  induction hreach with
  | refl => rfl
  | tail _ halias ih =>
    subst ih
    exact hitself _ halias

/-- A chain that reaches a declaration that stands for itself runs into no ring. -/
theorem StandsForItself.not_runsIntoRing (hitself : arena.StandsForItself last)
    (hreach : ReflTransGen arena.AliasOf id last) : ¬arena.RunsIntoRing id := by
  rintro ⟨member, hmember, hring, hother⟩
  have hback : ReflTransGen arena.AliasOf last member := by
    rw [aliasOf_eq] at hreach hmember hring ⊢
    obtain hback | hforth :=
      ReflTransGen.total_of_right_unique (LinksTo.rightUnique _) hreach hmember
    · exact hback
    · exact LinksTo.comes_back hring hforth
  obtain rfl := hitself.eq_of_reaches hback
  obtain ⟨next, halias, -⟩ := TransGen.head'_iff.mp hring
  obtain rfl := hitself next halias
  exact hother halias

/-- Two declarations that stand for themselves are not reached from one. -/
theorem StandsForItself.unique {other : DeclId} (hitself : arena.StandsForItself last)
    (hother : arena.StandsForItself other) (hreach : ReflTransGen arena.AliasOf id last)
    (hreachOther : ReflTransGen arena.AliasOf id other) : last = other := by
  rw [aliasOf_eq] at hreach hreachOther
  obtain hforth | hback :=
    ReflTransGen.total_of_right_unique (LinksTo.rightUnique _) hreach hreachOther
  · rw [← aliasOf_eq] at hforth
    exact (hitself.eq_of_reaches hforth).symm
  · rw [← aliasOf_eq] at hback
    exact hother.eq_of_reaches hback

/-- Function aliases in a closed arena lead to a declaration that stands for itself, past
declarations that do not, or into a ring. -/
theorem Closed.exists_passes_or_ring (hclosed : arena.Closed) (hid : id.number < arena.size) :
    (∃ passed last, Passes (arena.linked Declaration.aliasedFunction?) id passed last ∧
      passed.length ≤ arena.size ∧ (∀ earlier ∈ passed, ¬arena.StandsForItself earlier) ∧
      arena.StandsForItself last) ∨ arena.RunsIntoRing id := by
  have hbound : ∀ id target, arena.linked Declaration.aliasedFunction? id = some target →
      target.number < arena.size :=
    fun _ _ => hclosed.lt_of_linked fun _ _ => mem_handles_of_aliasedFunction?
  obtain ⟨passed, last, hstops⟩ := Stops.exists_of_bound arena.StandsForItself hid hbound
  by_cases hitself : arena.StandsForItself last
  · exact .inl ⟨passed, last, hstops.passes, hstops.length_le hid hbound, hstops.goes_on, hitself⟩
  · obtain hnone | hitself' | hagain := hstops.stops
    · refine absurd (fun target halias => ?_) hitself
      rw [aliasOf_eq, LinksTo, hnone] at halias
      contradiction
    · exact absurd hitself' hitself
    · refine .inr ⟨last, ?_, ?_, fun halias => hitself fun target htarget => ?_⟩
      · rw [aliasOf_eq]
        exact hstops.passes.reaches
      · rw [aliasOf_eq]
        exact hstops.passes.ring_of_mem hagain
      · rw [aliasOf_eq] at halias htarget
        exact LinksTo.rightUnique _ htarget halias

/-- Where every function alias names an earlier declaration, none leads back to itself. -/
theorem not_transGen_aliasOf_of_lt
    (hearlier : ∀ number (hnumber : number < arena.declarations.size),
      ∀ target ∈ arena.declarations[number].aliasedFunction?, target.number < number)
    (id : DeclId) : ¬TransGen arena.AliasOf id id := by
  have hless : ∀ name target, arena.AliasOf name target → target.number < name.number := by
    rintro name target ⟨declaration, hget, halias⟩
    obtain ⟨hbound, rfl⟩ := Array.getElem?_eq_some_iff.mp (get_eq_ok_iff.mp hget)
    exact hearlier name.number hbound target halias
  have hpasses : ∀ target, TransGen arena.AliasOf id target → target.number < id.number := by
    intro target hpath
    induction hpath with
    | single hstep => exact hless id _ hstep
    | tail _ hstep ih => exact Nat.lt_trans (hless _ _ hstep) ih
  exact fun hring => Nat.lt_irrefl id.number (hpasses id hring)

/-! ## The walk -/

/-- A walk stops where its steps are used up, at a declaration that is no function alias, or before
it comes back to where it began. -/
theorem exists_passes_of_followFunctionAliases
    (hfollow : arena.followFunctionAliases start steps current = .ok function) :
    ∃ passed, Passes (arena.linked Declaration.aliasedFunction?) current passed function ∧
      (passed.length = steps ∨ arena.linked Declaration.aliasedFunction? function = none ∨
        arena.linked Declaration.aliasedFunction? function = some start) := by
  induction steps generalizing current with
  | zero =>
    obtain rfl := Except.ok.inj hfollow
    exact ⟨[], .here current, .inl rfl⟩
  | succ steps ih =>
    obtain ⟨declaration, hget, hrest⟩ := bind_eq_ok_iff.mp hfollow
    have hlinked := linked_of_get Declaration.aliasedFunction? hget
    cases halias : declaration.aliasedFunction? with
    | none =>
      obtain rfl : current = function := by simpa [halias] using hrest
      exact ⟨[], .here current, .inr (.inl (hlinked.trans halias))⟩
    | some target =>
      rw [halias] at hlinked hrest
      by_cases hback : target = start
      · obtain rfl : current = function := by simpa [hback] using hrest
        exact ⟨[], .here current, .inr (.inr (hback ▸ hlinked))⟩
      · obtain ⟨passed, hpasses, hend⟩ := ih (by simpa [hback] using hrest)
        exact ⟨current :: passed, .link hlinked hpasses, hend.imp_left (by simp [·])⟩

/-- Where no function alias leads back to itself, following function aliases ends at a proper
function. -/
theorem isProper_of_aliasedFunction (hacyclic : ∀ id, ¬TransGen arena.AliasOf id id)
    (halias : arena.aliasedFunction id = .ok function) : arena.IsProper function := by
  obtain ⟨passed, hpasses, hend⟩ := exists_passes_of_followFunctionAliases halias
  intro declaration hget
  rw [← linked_of_get Declaration.aliasedFunction? hget]
  rw [aliasOf_eq] at hacyclic
  obtain hlength | hnone | hback := hend
  · -- There would be one declaration too many.
    have hread : ∀ other ∈ passed ++ [function], other.number < arena.size := by
      intro other hother
      obtain hmem | hlast := List.mem_append.mp hother
      · exact lt_of_mem_passes hpasses hmem
      · obtain rfl := List.mem_singleton.mp hlast
        exact lt_of_get hget
    have hle := DeclId.length_le_of_nodup (hpasses.nodup_of_acyclic hacyclic) hread
    simp only [List.length_append, List.length_singleton] at hle
    omega
  · exact hnone
  · exact absurd (TransGen.tail' hpasses.reaches hback) (hacyclic id)

/-- A walk that never comes to an alias of where it began goes on as if it began at the end of any
way. -/
theorem followFunctionAliases_of_passes
    (hpasses : Passes (arena.linked Declaration.aliasedFunction?) current passed last)
    (hon : ∀ earlier ∈ passed, ¬arena.AliasOf earlier start) (steps : Nat) :
    arena.followFunctionAliases start (passed.length + steps) current =
      arena.followFunctionAliases start steps last := by
  induction hpasses with
  | here => rw [List.length_nil, Nat.zero_add]
  | @link id target last passed next_eq _ ih =>
    obtain ⟨declaration, hget, halias⟩ := linked_eq_some_iff.mp next_eq
    obtain ⟨hfirst, hothers⟩ := List.forall_mem_cons.mp hon
    have hne : target ≠ start := by
      rintro rfl
      exact hfirst ⟨declaration, hget, halias⟩
    rw [List.length_cons, Nat.add_right_comm, followFunctionAliases, hget, ok_bind, halias]
    simpa only [hne, if_false] using ih hothers

/-- A walk does not leave a declaration that stands for itself. -/
theorem StandsForItself.followFunctionAliases (hitself : arena.StandsForItself last)
    (hlast : last.number < arena.size) (start : DeclId) (steps : Nat) :
    arena.followFunctionAliases start steps last = .ok last := by
  induction steps with
  | zero => rfl
  | succ steps ih =>
    obtain ⟨declaration, hget⟩ := exists_get hlast
    rw [Arena.followFunctionAliases, hget, ok_bind]
    cases halias : declaration.aliasedFunction? with
    | none => rfl
    | some target =>
      obtain rfl := hitself target ⟨declaration, hget, halias⟩
      simp [ih]

/-- A walk never comes back to where it began. -/
theorem ne_start_of_followFunctionAliases (hne : current ≠ start)
    (hfollow : arena.followFunctionAliases start steps current = .ok function) :
    function ≠ start := by
  induction steps generalizing current with
  | zero => rwa [← Except.ok.inj hfollow]
  | succ steps ih =>
    obtain ⟨declaration, -, hrest⟩ := bind_eq_ok_iff.mp hfollow
    split at hrest
    · split at hrest
      · rwa [← Except.ok.inj hrest]
      · next hother => exact ih hother hrest
    · rwa [← Except.ok.inj hrest]

/-- A walk comes to the declaration that stands for itself, if the chain reaches one, however many
steps more than enough it may take. -/
theorem Closed.followFunctionAliases_eq (hclosed : arena.Closed) (hid : id.number < arena.size)
    (hreach : ReflTransGen arena.AliasOf id last) (hitself : arena.StandsForItself last)
    (hsteps : arena.size ≤ steps) : arena.followFunctionAliases id steps id = .ok last := by
  have hnoRing := hitself.not_runsIntoRing hreach
  obtain ⟨passed, other, hpasses, hlength, hon, hother⟩ :=
    (hclosed.exists_passes_or_ring hid).resolve_right hnoRing
  have hreachOther : ReflTransGen arena.AliasOf id other := aliasOf_eq arena ▸ hpasses.reaches
  obtain rfl := hitself.unique hother hreach hreachOther
  have hlast : last.number < arena.size :=
    (hpasses.lt_of_bound hid fun _ _ => hclosed.lt_of_linked
      fun _ _ => mem_handles_of_aliasedFunction?).2
  -- An alias of the first declaration would close a ring through it.
  have hopen : ∀ earlier ∈ passed, ¬arena.AliasOf earlier id := by
    intro earlier hmem halias
    obtain ⟨before, rest, rfl, hbefore, -⟩ := hpasses.exists_of_mem hmem
    have hround : ReflTransGen arena.AliasOf id earlier := aliasOf_eq arena ▸ hbefore.reaches
    refine hnoRing ⟨id, .refl, .tail' hround halias, fun hown => ?_⟩
    have hfirst : arena.StandsForItself id := by
      intro target htarget
      rw [aliasOf_eq] at hown htarget
      exact LinksTo.rightUnique _ htarget hown
    obtain rfl := hfirst.eq_of_reaches hround
    exact hon earlier hmem hfirst
  obtain ⟨further, rfl⟩ := Nat.exists_eq_add_of_le (Nat.le_trans hlength hsteps)
  rw [followFunctionAliases_of_passes hpasses hopen, hitself.followFunctionAliases hlast]

/-- A declaration names itself exactly if it is no other name for another function. -/
theorem aliasedFunction_self_iff (hid : id.number < arena.size) :
    arena.aliasedFunction id = .ok id ↔ arena.StandsForItself id := by
  constructor
  · rintro hself target ⟨declaration, hget, halias⟩
    by_contra hother
    obtain ⟨steps, hsteps⟩ := Nat.exists_eq_succ_of_ne_zero (Nat.ne_zero_of_lt hid)
    rw [aliasedFunction, hsteps, Nat.succ_eq_add_one, Arena.followFunctionAliases, hget, ok_bind,
      halias] at hself
    simp only [hother, if_false] at hself
    exact ne_start_of_followFunctionAliases hother hself rfl
  · exact fun hitself => hitself.followFunctionAliases hid id arena.size

/-- A function alias always stands for a declaration to which its chain leads.  That is the one at
the end of the chain, if it has an end, and more steps would not change it.  What is found stands
for itself exactly if the chain does not run into a ring of more than one function alias. -/
theorem Closed.aliasedFunction_representative (hclosed : arena.Closed)
    (hid : id.number < arena.size) :
    ∃ named, arena.aliasedFunction id = .ok named ∧ ReflTransGen arena.AliasOf id named ∧
      (∀ last, ReflTransGen arena.AliasOf id last → arena.IsProper last → named = last ∧
        ∀ steps, arena.size ≤ steps → arena.followFunctionAliases id steps id = .ok named) ∧
      (arena.aliasedFunction named = .ok named ↔ ¬arena.RunsIntoRing id) := by
  obtain ⟨named, hnamed, hbound⟩ := hclosed.aliasedFunction hid
  obtain ⟨passed, hpasses, -⟩ := exists_passes_of_followFunctionAliases hnamed
  have hreach : ReflTransGen arena.AliasOf id named := aliasOf_eq arena ▸ hpasses.reaches
  have hunique : ∀ last, ReflTransGen arena.AliasOf id last → arena.StandsForItself last →
      named = last := by
    intro last hlast hitself
    have hfound := hclosed.followFunctionAliases_eq hid hlast hitself (Nat.le_refl arena.size)
    exact Except.ok.inj (hnamed.symm.trans hfound)
  refine ⟨named, hnamed, hreach, fun last hlast hproper => ?_, ?_⟩
  · obtain rfl := hunique last hlast hproper.standsForItself
    exact ⟨rfl, fun steps => hclosed.followFunctionAliases_eq hid hlast hproper.standsForItself⟩
  · rw [aliasedFunction_self_iff hbound]
    constructor
    · exact fun hitself => hitself.not_runsIntoRing hreach
    · intro hnoRing
      obtain ⟨before, last, hway, -, -, hitself⟩ :=
        (hclosed.exists_passes_or_ring hid).resolve_right hnoRing
      rwa [hunique last (aliasOf_eq arena ▸ hway.reaches) hitself]

def aliasOfAlias : Arena where
  declarations := #[.func .anonymous .synthetic (.aliasTo ⟨1⟩ false) [],
    .func .anonymous .synthetic (.aliasTo ⟨2⟩ false) [], .func .anonymous .synthetic .plain []]

theorem Closed.aliasedFunction_representative_aliasOfAlias :
    aliasOfAlias.Closed ∧ (⟨0⟩ : DeclId).number < aliasOfAlias.size ∧
    ∃ named, aliasOfAlias.aliasedFunction ⟨0⟩ = .ok named ∧
      ReflTransGen aliasOfAlias.AliasOf ⟨0⟩ named ∧
      (∀ last, ReflTransGen aliasOfAlias.AliasOf ⟨0⟩ last → aliasOfAlias.IsProper last →
        named = last ∧ ∀ steps, aliasOfAlias.size ≤ steps →
          aliasOfAlias.followFunctionAliases ⟨0⟩ steps ⟨0⟩ = .ok named) ∧
      (aliasOfAlias.aliasedFunction named = .ok named ↔ ¬aliasOfAlias.RunsIntoRing ⟨0⟩) := by
  have hclosed : aliasOfAlias.Closed := by decide
  have hsize : (⟨0⟩ : DeclId).number < aliasOfAlias.size := by decide
  exact ⟨hclosed, hsize, hclosed.aliasedFunction_representative hsize⟩

def ringOfTwo : Arena where
  declarations := #[.func .anonymous .synthetic (.aliasTo ⟨1⟩ false) [],
    .func .anonymous .synthetic (.aliasTo ⟨0⟩ false) []]

/-- On a ring what an alias stands for does not stand for itself. -/
theorem aliasedFunction_not_idempotent_ringOfTwo :
    ringOfTwo.Closed ∧ ringOfTwo.aliasedFunction ⟨0⟩ = .ok ⟨1⟩ ∧
    ringOfTwo.aliasedFunction ⟨1⟩ = .ok ⟨0⟩ :=
  ⟨by decide, rfl, rfl⟩

end Declarations.Arena
