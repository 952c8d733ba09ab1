import Declarations.Proofs.Arena.Closed
import Mathlib.Logic.Relation

/-!
# Following links

Many declarations lead to at most one other: an alias to what it stands for, a local declaration to
the function around it.  Whoever follows such links from a declaration has no choice.  The way stops
where there is no link, where it must not go on, or where it comes to a declaration that it has
passed; where there are only so many declarations, one of these happens.
-/

namespace Declarations

open Relation

def LinksTo (next : DeclId → Option DeclId) (id target : DeclId) : Prop :=
  next id = some target

/-- The declarations that are passed on a way along links, up to the one that is reached. -/
inductive Passes (next : DeclId → Option DeclId) : DeclId → List DeclId → DeclId → Prop where
  | here (id : DeclId) : Passes next id [] id
  | link {id target last : DeclId} {passed : List DeclId} (next_eq : next id = some target)
      (rest : Passes next target passed last) : Passes next id (id :: passed) last

/-- A way along links stops at the first declaration that has no link, that halts it, or that it has
passed. -/
structure Stops (next : DeclId → Option DeclId) (halts : DeclId → Prop) (id : DeclId)
    (passed : List DeclId) (last : DeclId) : Prop where
  passes : Passes next id passed last
  nodup : passed.Nodup
  goes_on : ∀ earlier ∈ passed, ¬halts earlier
  stops : next last = none ∨ halts last ∨ last ∈ passed

variable {next : DeclId → Option DeclId} {halts : DeclId → Prop} {id target last other : DeclId}
  {passed further : List DeclId} {bound : Nat}

namespace LinksTo

theorem rightUnique (next : DeclId → Option DeclId) : Relator.RightUnique (LinksTo next) :=
  fun _ _ _ hleft hright => Option.some.inj (hleft.symm.trans hright)

/-- From a ring no way leads out. -/
theorem comes_back (hring : TransGen (LinksTo next) id id)
    (hreach : ReflTransGen (LinksTo next) id last) : ReflTransGen (LinksTo next) last id := by
  induction hreach with
  | refl => exact .refl
  | tail _ hlink ih =>
    obtain ⟨other, hother, hback⟩ := TransGen.head'_iff.mp (TransGen.trans_right ih hring)
    rwa [rightUnique next hlink hother]

end LinksTo

namespace Passes

theorem reaches (hpasses : Passes next id passed last) : ReflTransGen (LinksTo next) id last := by
  induction hpasses with
  | here => exact .refl
  | link next_eq _ ih => exact .head next_eq ih

theorem exists_of_reaches (hreach : ReflTransGen (LinksTo next) id last) :
    ∃ passed, Passes next id passed last := by
  induction hreach using ReflTransGen.head_induction_on with
  | refl => exact ⟨[], .here last⟩
  | head hlink _ ih =>
    obtain ⟨passed, hpasses⟩ := ih
    exact ⟨_, .link hlink hpasses⟩

theorem concat (hpasses : Passes next id passed last) (hnext : next last = some target) :
    Passes next id (passed ++ [last]) target := by
  induction hpasses with
  | here id => exact .link hnext (.here target)
  | link next_eq _ ih => exact .link next_eq (ih hnext)

/-- Of two ways from one declaration the longer one goes on where the shorter one ends. -/
theorem goes_on (hleft : Passes next id passed last) (hright : Passes next id further other) :
    (∃ rest, further = passed ++ rest ∧ Passes next last rest other) ∨
      ∃ rest, passed = further ++ rest ∧ Passes next other rest last := by
  induction hleft generalizing further with
  | here id => exact .inl ⟨further, rfl, hright⟩
  | @link id target last passed next_eq rest ih =>
    cases hright with
    | here => exact .inr ⟨_, rfl, .link next_eq rest⟩
    | link next_eq' rest' =>
      obtain rfl := Option.some.inj (next_eq.symm.trans next_eq')
      obtain ⟨between, rfl, hbetween⟩ | ⟨between, rfl, hbetween⟩ := ih rest'
      · exact .inl ⟨between, rfl, hbetween⟩
      · exact .inr ⟨between, rfl, hbetween⟩

/-- A way can be divided at a declaration that it passes. -/
theorem exists_of_mem (hpasses : Passes next id passed last) (hmem : other ∈ passed) :
    ∃ before rest, passed = before ++ other :: rest ∧ Passes next id before other ∧
      Passes next other (other :: rest) last := by
  induction hpasses with
  | here => contradiction
  | @link id target last passed next_eq rest ih =>
    obtain rfl | hmem := List.mem_cons.mp hmem
    · exact ⟨[], passed, rfl, .here other, .link next_eq rest⟩
    · obtain ⟨before, later, rfl, hbefore, hlater⟩ := ih hmem
      exact ⟨id :: before, later, rfl, .link next_eq hbefore, hlater⟩

/-- There is only one way to a declaration without a link. -/
theorem unique_of_next_eq_none (hleft : Passes next id passed last) (hlast : next last = none)
    (hright : Passes next id further other) (hother : next other = none) : passed = further := by
  obtain ⟨rest, rfl, hrest⟩ | ⟨rest, rfl, hrest⟩ := hleft.goes_on hright
  · cases hrest with
    | here => exact (List.append_nil _).symm
    | link next_eq => simp [hlast] at next_eq
  · cases hrest with
    | here => exact List.append_nil _
    | link next_eq => simp [hother] at next_eq

/-- A way to a declaration without a link passes no declaration twice. -/
theorem nodup_of_next_eq_none (hpasses : Passes next id passed last) (hlast : next last = none) :
    passed.Nodup := by
  induction hpasses with
  | here => exact .nil
  | @link id target last passed next_eq rest ih =>
    refine List.nodup_cons.mpr ⟨fun hagain => ?_, ih hlast⟩
    obtain ⟨before, later, rfl, -, hlater⟩ := rest.exists_of_mem hagain
    have hsame := hlater.unique_of_next_eq_none hlast (.link next_eq rest) hlast
    have hlength := congrArg List.length hsame
    simp only [List.length_cons, List.length_append] at hlength
    omega

/-- A declaration that a way comes to again is on a ring. -/
theorem ring_of_mem (hpasses : Passes next id passed last) (hagain : last ∈ passed) :
    TransGen (LinksTo next) last last := by
  obtain ⟨before, rest, -, -, hround⟩ := hpasses.exists_of_mem hagain
  cases hround with
  | link next_eq hrest => exact .head' next_eq hrest.reaches

/-- Where there is no ring, a way never comes to a declaration again. -/
theorem nodup_of_acyclic (hacyclic : ∀ id, ¬TransGen (LinksTo next) id id)
    (hpasses : Passes next id passed last) : (passed ++ [last]).Nodup := by
  induction hpasses with
  | here => simp
  | @link id target last passed next_eq rest ih =>
    refine List.nodup_cons.mpr ⟨fun hagain => ?_, ih⟩
    obtain hmem | hlast := List.mem_append.mp hagain
    · obtain ⟨before, -, -, hbefore, -⟩ := rest.exists_of_mem hmem
      exact hacyclic id ((link next_eq hbefore).ring_of_mem List.mem_cons_self)
    · obtain rfl := List.mem_singleton.mp hlast
      exact hacyclic id ((link next_eq rest).ring_of_mem List.mem_cons_self)

theorem lt_of_bound (hpasses : Passes next id passed last) (hid : id.number < bound)
    (hbound : ∀ id target, next id = some target → target.number < bound) :
    (∀ earlier ∈ passed, earlier.number < bound) ∧ last.number < bound := by
  induction hpasses with
  | here => exact ⟨by simp, hid⟩
  | link next_eq _ ih =>
    obtain ⟨hpassed, hlast⟩ := ih (hbound _ _ next_eq)
    exact ⟨List.forall_mem_cons.mpr ⟨hid, hpassed⟩, hlast⟩

end Passes

namespace Stops

/-- A way either stops or has passed as many declarations as steps were taken. -/
theorem exists_or_length (next : DeclId → Option DeclId) (halts : DeclId → Prop) (id : DeclId)
    (steps : Nat) : ∃ passed last, Stops next halts id passed last ∨
      (Passes next id passed last ∧ passed.Nodup ∧ (∀ earlier ∈ passed, ¬halts earlier) ∧
        passed.length = steps) := by
  induction steps with
  | zero => exact ⟨[], id, .inr ⟨.here id, .nil, by simp, rfl⟩⟩
  | succ steps ih =>
    obtain ⟨passed, last, hstops | ⟨hpasses, hnodup, hon, hlength⟩⟩ := ih
    · exact ⟨passed, last, .inl hstops⟩
    · by_cases hstop : next last = none ∨ halts last ∨ last ∈ passed
      · exact ⟨passed, last, .inl ⟨hpasses, hnodup, hon, hstop⟩⟩
      · obtain ⟨hlink, hfree, hnew⟩ : next last ≠ none ∧ ¬halts last ∧ last ∉ passed := by
          simpa using hstop
        obtain ⟨target, htarget⟩ := Option.ne_none_iff_exists'.mp hlink
        refine ⟨passed ++ [last], target, .inr ⟨hpasses.concat htarget, ?_, ?_, ?_⟩⟩
        · rw [← List.concat_eq_append]
          exact hnodup.concat hnew
        · simpa [or_imp, forall_and] using ⟨hon, hfree⟩
        · simp [hlength]

/-- Where there are only so many declarations, every way stops. -/
theorem exists_of_bound (halts : DeclId → Prop) (hid : id.number < bound)
    (hbound : ∀ id target, next id = some target → target.number < bound) :
    ∃ passed last, Stops next halts id passed last := by
  obtain ⟨passed, last, hstops | ⟨hpasses, hnodup, -, hlength⟩⟩ :=
    exists_or_length next halts id (bound + 1)
  · exact ⟨passed, last, hstops⟩
  · have hle := DeclId.length_le_of_nodup hnodup (hpasses.lt_of_bound hid hbound).1
    omega

theorem length_le (hstops : Stops next halts id passed last) (hid : id.number < bound)
    (hbound : ∀ id target, next id = some target → target.number < bound) :
    passed.length ≤ bound :=
  DeclId.length_le_of_nodup hstops.nodup (hstops.passes.lt_of_bound hid hbound).1

/-- A way that has stopped does not go on. -/
theorem eq_nil_of_append (hstops : Stops next halts id passed last)
    {rest : List DeclId} (hrest : Passes next last rest other) (hnodup : (passed ++ rest).Nodup)
    (hon : ∀ later ∈ rest, ¬halts later) : rest = [] := by
  cases hrest with
  | here => rfl
  | link next_eq rest =>
    obtain hnone | hhalts | hagain := hstops.stops
    · simp [hnone] at next_eq
    · exact absurd hhalts (hon last List.mem_cons_self)
    · exact absurd List.mem_cons_self ((List.nodup_append'.mp hnodup).2.2 hagain)

/-- A way stops only once. -/
theorem unique (hleft : Stops next halts id passed last)
    (hright : Stops next halts id further other) : passed = further ∧ last = other := by
  obtain ⟨rest, rfl, hrest⟩ | ⟨rest, rfl, hrest⟩ := hleft.passes.goes_on hright.passes
  · obtain rfl := hleft.eq_nil_of_append hrest hright.nodup
      fun later hlater => hright.goes_on later (List.mem_append_right _ hlater)
    cases hrest
    exact ⟨(List.append_nil _).symm, rfl⟩
  · obtain rfl := hright.eq_nil_of_append hrest hleft.nodup
      fun later hlater => hleft.goes_on later (List.mem_append_right _ hlater)
    cases hrest
    exact ⟨List.append_nil _, rfl⟩

end Stops

namespace Arena

variable {arena : Arena} {declaration : Declaration} {read : Declaration → Option DeclId}

def linked (arena : Arena) (read : Declaration → Option DeclId) (id : DeclId) : Option DeclId :=
  match arena.get id with
  | .ok declaration => read declaration
  | .error _ => none

theorem linked_of_get (read : Declaration → Option DeclId) (hget : arena.get id = .ok declaration) :
    arena.linked read id = read declaration := by
  rw [linked, hget]

theorem linked_eq_some_iff : arena.linked read id = some target ↔
    ∃ declaration, arena.get id = .ok declaration ∧ read declaration = some target := by
  unfold linked
  split <;> simp [*]

theorem Closed.lt_of_linked (hclosed : arena.Closed)
    (hread : ∀ declaration target, read declaration = some target → target ∈ declaration.handles)
    (hlink : arena.linked read id = some target) : target.number < arena.size := by
  obtain ⟨declaration, hget, htarget⟩ := linked_eq_some_iff.mp hlink
  exact hclosed.lt_of_mem_handles hget (hread declaration target htarget)

/-- What a way passes can be read. -/
theorem lt_of_mem_passes (hpasses : Passes (arena.linked read) id passed last)
    (hmem : other ∈ passed) : other.number < arena.size := by
  obtain ⟨before, rest, -, -, hrest⟩ := hpasses.exists_of_mem hmem
  cases hrest with
  | link next_eq =>
    obtain ⟨declaration, hget, -⟩ := linked_eq_some_iff.mp next_eq
    exact lt_of_get hget

end Arena

end Declarations
