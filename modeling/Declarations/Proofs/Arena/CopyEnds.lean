import Declarations.Proofs.Arena.CopyOutcome

/-!
# Copies that end

A tuple is copied together with the declarations among its elements, and nothing is kept about the
tuples that are being copied at the time.  A copy therefore goes as deep as the tree of the
declaration does.  It ends exactly if no tuple below the declaration contains itself and there is
room for one new declaration for each way through the tree; otherwise it fills the arena.  A tuple
can contain itself, because its elements are handles that need not have been given out when it is
made.
-/

namespace Declarations

open Relation

namespace Arena

variable {arena source before after : Arena} {id inner : DeclId} {depth : Nat}

/-! ## Trees without an end -/

/-- Below a tuple that contains itself there are ways of every length. -/
theorem exists_way_of_cycle (hcycle : TransGen arena.Contains inner inner) (length : Nat) :
    ∃ way ∈ arena.ways inner, way.length = length := by
  induction length generalizing inner with
  | zero => exact ⟨[], ⟨inner, rfl⟩, rfl⟩
  | succ length ih =>
    obtain ⟨member, hcontains, hback⟩ := TransGen.head'_iff.mp hcycle
    obtain ⟨way, hway, hlength⟩ := ih (.tail' hback hcontains)
    obtain ⟨place, hplace⟩ := hcontains
    exact ⟨place :: way, cons_mem_ways_iff.mpr ⟨member, hplace, hway⟩, congrArg Nat.succ hlength⟩

/-- If a tuple below a declaration contains itself, there are ways of every length below the
declaration. -/
theorem exists_way_of_not_acyclic (hcyclic : ¬arena.Acyclic id) (depth : Nat) :
    ∃ way ∈ arena.ways id, depth ≤ way.length := by
  obtain ⟨inner, hreach, hcycle⟩ : ∃ inner, ReflTransGen arena.Contains id inner ∧
      TransGen arena.Contains inner inner := by
    simpa [Acyclic] using hcyclic
  induction hreach using ReflTransGen.head_induction_on with
  | refl =>
    obtain ⟨way, hway, hlength⟩ := exists_way_of_cycle hcycle depth
    exact ⟨way, hway, hlength.ge⟩
  | head hcontains hreach ih =>
    obtain ⟨way, hway, hlength⟩ := ih fun hacyclic => hacyclic inner hreach hcycle
    obtain ⟨place, hplace⟩ := hcontains
    exact ⟨place :: way, cons_mem_ways_iff.mpr ⟨_, hplace, hway⟩, Nat.le_succ_of_le hlength⟩

/-- In a closed arena the ways below a declaration are of bounded length exactly if no tuple there
contains itself. -/
theorem Closed.acyclic_iff_length_lt (hclosed : arena.Closed) (hid : id.number < arena.size) :
    arena.Acyclic id ↔ ∃ depth, ∀ way ∈ arena.ways id, way.length < depth := by
  constructor
  · exact fun hacyclic => ⟨arena.size, fun way => hclosed.length_lt_of_acyclic hid hacyclic⟩
  · rintro ⟨depth, hdepth⟩
    by_contra hcyclic
    obtain ⟨way, hway, hlength⟩ := exists_way_of_not_acyclic hcyclic depth
    exact Nat.not_lt.mpr hlength (hdepth way hway)

/-! ## How a copy ends -/

/-- A copy that has been made was deep enough, and the arena has grown by the tree. -/
theorem Closed.copied_of_copyWithin (hclosed : arena.Closed) (hid : id.number < arena.size)
    {copied : DeclId} (hrun : copyWithin depth arena id = .ok (copied, after)) :
    (∀ way ∈ arena.ways id, way.length < depth) ∧ arena.HasRoomFor id ∧ copied = ⟨arena.size⟩ ∧
      arena.Extends after ∧ (arena.ways id).Finite ∧
      after.size = arena.size + (arena.ways id).ncard := by
  have houtcome := hclosed.copyOutcome depth (.refl arena) hid
  rw [hrun] at houtcome
  generalize hanswer : Except.ok (copied, after) = answer at houtcome
  cases houtcome with
  | copied grows tree fits shallow =>
    obtain ⟨rfl, rfl⟩ := Prod.mk.inj (Except.ok.inj hanswer)
    refine ⟨shallow, ?_, tree.root_eq, grows, tree.finite_ways, tree.size_eq grows⟩
    rw [HasRoomFor, ← tree.cast_size_eq grows]
    exact_mod_cast fits
  | noRoom _ => contradiction
  | unfinished _ _ => contradiction

/-- A copy that may go deeper than there is room either ends or fills the arena. -/
theorem CopyOutcome.noRoom_of_deep {answer : Except Fault (DeclId × Arena)}
    (houtcome : CopyOutcome source before depth id answer) (hdepth : capacity < depth)
    (hfails : ∀ made, answer ≠ .ok made) : answer = .error .noRoom := by
  cases houtcome with
  | copied grows tree fits shallow => exact absurd rfl (hfails _)
  | noRoom _ => rfl
  | unfinished deep room =>
    have hfits := room (Nat.zero_lt_of_lt hdepth)
    omega

/-- A declaration of a closed arena can be copied exactly if no tuple that it leads to contains
itself and there is room for the copy; the copy then has the first new handle, and one declaration
has been added for each of the finitely many ways through the tree.  A copy for which there is no
room is refused.  Where a tuple contains itself the copy is never made, however deep it goes: it
adds declarations until the arena is full. -/
theorem Closed.copy_ends_iff (hclosed : arena.Closed) (hid : id.number < arena.size) :
    ((∃ copied after, arena.copy id = .ok (copied, after)) ↔
      arena.Acyclic id ∧ arena.HasRoomFor id) ∧
    (∀ copied after, arena.copy id = .ok (copied, after) →
      copied = ⟨arena.size⟩ ∧ arena.Extends after ∧ (arena.ways id).Finite ∧
        after.size = arena.size + (arena.ways id).ncard) ∧
    (arena.Acyclic id → ¬arena.HasRoomFor id → arena.copy id = .error .noRoom) ∧
    (¬arena.Acyclic id → ∀ depth, (∀ made, copyWithin depth arena id ≠ .ok made) ∧
      (capacity < depth → copyWithin depth arena id = .error .noRoom)) := by
  have hends : ∀ depth copied after, copyWithin depth arena id = .ok (copied, after) →
      arena.Acyclic id := fun depth copied after hrun =>
    (hclosed.acyclic_iff_length_lt hid).mpr ⟨depth, (hclosed.copied_of_copyWithin hid hrun).1⟩
  refine ⟨⟨?_, ?_⟩, ?_, ?_, ?_⟩
  · rintro ⟨copied, after, hrun⟩
    exact ⟨hends _ copied after hrun, (hclosed.copied_of_copyWithin hid hrun).2.1⟩
  · rintro ⟨hacyclic, hroom⟩
    obtain ⟨-, after, copyOf, hrun, -⟩ :=
      (hclosed.copy_of_acyclic hid hacyclic).resolve_right fun hfull => hfull.1 hroom
    exact ⟨_, after, hrun⟩
  · exact fun copied after hrun => (hclosed.copied_of_copyWithin hid hrun).2.2
  · intro hacyclic hfull
    obtain ⟨hroom, -⟩ | ⟨-, hrun⟩ := hclosed.copy_of_acyclic hid hacyclic
    · exact absurd hroom hfull
    · exact hrun
  · intro hcyclic depth
    have hfails : ∀ made, copyWithin depth arena id ≠ .ok made :=
      fun made hrun => hcyclic (hends depth made.1 made.2 hrun)
    exact ⟨hfails, fun hdepth =>
      (hclosed.copyOutcome depth (.refl arena) hid).noRoom_of_deep hdepth hfails⟩

theorem Closed.copy_ends_iff_nestedTuples :
    (nestedTuples.Closed ∧ (⟨3⟩ : DeclId).number < nestedTuples.size) ∧
    ((∃ copied after, nestedTuples.copy ⟨3⟩ = .ok (copied, after)) ↔
      nestedTuples.Acyclic ⟨3⟩ ∧ nestedTuples.HasRoomFor ⟨3⟩) ∧
    (∀ copied after, nestedTuples.copy ⟨3⟩ = .ok (copied, after) →
      copied = ⟨nestedTuples.size⟩ ∧ nestedTuples.Extends after ∧ (nestedTuples.ways ⟨3⟩).Finite ∧
        after.size = nestedTuples.size + (nestedTuples.ways ⟨3⟩).ncard) ∧
    (nestedTuples.Acyclic ⟨3⟩ → ¬nestedTuples.HasRoomFor ⟨3⟩ →
      nestedTuples.copy ⟨3⟩ = .error .noRoom) ∧
    (¬nestedTuples.Acyclic ⟨3⟩ → ∀ depth, (∀ made, copyWithin depth nestedTuples ⟨3⟩ ≠ .ok made) ∧
      (capacity < depth → copyWithin depth nestedTuples ⟨3⟩ = .error .noRoom)) := by
  have hclosed : nestedTuples.Closed := by decide
  exact ⟨⟨hclosed, by decide⟩, hclosed.copy_ends_iff (by decide)⟩

/-- A tuple that was made with the handle which it was then given itself. -/
def selfContaining : Arena :=
  match Declaration.tuple ⟨11⟩ .synthetic .expressions [.declaration ⟨0⟩] with
  | .ok tuple => (({} : Arena).add tuple).2
  | .error _ => {}

/-- A closed arena may hold a tuple that cannot be copied: however deep the copy goes, it is never
made. -/
theorem copyWithin_ne_ok_selfContaining :
    (∃ tuple, Declaration.tuple ⟨11⟩ .synthetic .expressions [.declaration ⟨0⟩] = .ok tuple ∧
      selfContaining = (({} : Arena).add tuple).2) ∧
    selfContaining.Closed ∧ (⟨0⟩ : DeclId).number < selfContaining.size ∧
    ∀ depth made, copyWithin depth selfContaining ⟨0⟩ ≠ .ok made := by
  have hclosed : selfContaining.Closed := by decide
  have hbound : (⟨0⟩ : DeclId).number < selfContaining.size := by decide
  refine ⟨⟨_, rfl, rfl⟩, hclosed, hbound, fun depth made hrun => ?_⟩
  have hcycle : TransGen selfContaining.Contains ⟨0⟩ ⟨0⟩ := .single ⟨0, rfl⟩
  obtain ⟨way, hway, hlength⟩ := exists_way_of_cycle hcycle depth
  have hshort := (hclosed.copied_of_copyWithin hbound hrun).1 way hway
  omega

end Arena

end Declarations
