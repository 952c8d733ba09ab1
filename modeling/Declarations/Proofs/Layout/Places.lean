import Declarations.Layout

/-!
# The places of fields

Where fields come to stand depends only on their sizes and alignments and on the place from which
the first is tried, so it can be told before any of them is placed.  A later field of a struct
starts where an earlier one ends or behind it, unless the earlier one ends beyond the last place.
-/

namespace Declarations

/-- The least multiple of `alignment` that is not less than `place`, among all numbers. -/
def roundUp (place alignment : Nat) : Nat :=
  place + (alignment - place % alignment) % alignment

theorem le_roundUp (place alignment : Nat) : place ≤ roundUp place alignment :=
  Nat.le_add_right _ _

/-- As long as it is a place, the next multiple is the one among all numbers. -/
theorem toNat_nextMultiple {place alignment : UInt32} (hpositive : 0 < alignment)
    (hroom : roundUp place.toNat alignment.toNat < UInt32.size) :
    (nextMultiple place alignment).toNat = roundUp place.toNat alignment.toNat := by
  have hrest : (place % alignment).toNat = place.toNat % alignment.toNat :=
    UInt32.toNat_mod place alignment
  have hless : place.toNat % alignment.toNat < alignment.toNat :=
    Nat.mod_lt _ (UInt32.lt_iff_toNat_lt.mp hpositive)
  rw [nextMultiple]
  -- The difference of the words is taken only where there is a remainder.
  split
  · next hmultiple =>
    rw [hmultiple, UInt32.toNat_zero] at hrest
    rw [roundUp, ← hrest, Nat.sub_zero, Nat.mod_self, Nat.add_zero]
  · next hbetween =>
    have hsome : 0 < place.toNat % alignment.toNat := by
      rw [← hrest, Nat.pos_iff_ne_zero, ← UInt32.toNat_zero, ne_eq, UInt32.toNat_inj]
      exact hbetween
    have hpadding : (alignment - place % alignment).toNat =
        alignment.toNat - place.toNat % alignment.toNat := by
      rw [UInt32.toNat_sub_of_le, hrest]
      rw [UInt32.le_iff_toNat_le, hrest]
      exact Nat.le_of_lt hless
    have hround : roundUp place.toNat alignment.toNat =
        place.toNat + (alignment.toNat - place.toNat % alignment.toNat) := by
      rw [roundUp, Nat.mod_eq_of_lt (Nat.sub_lt (Nat.lt_trans hsome hless) hsome)]
    rw [UInt32.toNat_add, hpadding, ← hround, Nat.mod_eq_of_lt hroom]

/-- A variable that is to become a field: how many bytes it takes, and of which number its place is
a multiple. -/
structure Slot where
  field : DeclId
  size : UInt32
  alignment : UInt32
  alignment_pos : 0 < alignment

structure Placed extends Slot where
  start : UInt32

def Slot.place (slot : Slot) (next : UInt32) : Placed :=
  { slot with start := nextMultiple next slot.alignment }

namespace Placed

/-- Where the field ends as its size says. -/
def stop (placed : Placed) : Nat :=
  placed.start.toNat + placed.size.toNat

def nextPlace (placed : Placed) (isUnion : Bool) (next : UInt32) : UInt32 :=
  if isUnion then next else placeAfter placed.start placed.size

/-- Whether the field ends beyond the last place and so shares that place with another field. -/
def RunsInto (earlier later : Placed) : Prop :=
  lastPlace.toNat < earlier.stop ∧ later.size ≠ 0

instance (earlier later : Placed) : Decidable (earlier.RunsInto later) :=
  inferInstanceAs (Decidable (_ ∧ _))

end Placed

def layout (isUnion : Bool) : UInt32 → List Slot → List Placed
  | _, [] => []
  | next, slot :: rest =>
      slot.place next :: layout isUnion ((slot.place next).nextPlace isUnion next) rest

def nextAfter (isUnion : Bool) : UInt32 → List Slot → UInt32
  | next, [] => next
  | next, slot :: rest => nextAfter isUnion ((slot.place next).nextPlace isUnion next) rest

/-- Every field finds a multiple of its alignment among the places. -/
def Aligns (isUnion : Bool) : UInt32 → List Slot → Prop
  | _, [] => True
  | next, slot :: rest =>
      roundUp next.toNat slot.alignment.toNat < UInt32.size ∧
        Aligns isUnion ((slot.place next).nextPlace isUnion next) rest

instance decidableAligns (isUnion : Bool) :
    (next : UInt32) → (slots : List Slot) → Decidable (Aligns isUnion next slots)
  | _, [] => inferInstanceAs (Decidable True)
  | next, slot :: rest =>
      have := decidableAligns isUnion ((slot.place next).nextPlace isUnion next) rest
      inferInstanceAs (Decidable (_ ∧ _))

variable {isUnion : Bool} {next : UInt32} {slot : Slot} {slots : List Slot} {placed : Placed}

theorem map_field_layout : (layout isUnion next slots).map (·.field) = slots.map Slot.field := by
  induction slots generalizing next with
  | nil => rfl
  | cons slot rest ih => simp [layout, Slot.place, ih]

theorem le_start_place (hroom : roundUp next.toNat slot.alignment.toNat < UInt32.size) :
    next.toNat ≤ (slot.place next).start.toNat := by
  rw [Slot.place, toNat_nextMultiple slot.alignment_pos hroom]
  exact le_roundUp _ _

theorem le_nextPlace (hstart : next.toNat ≤ placed.start.toNat) :
    next.toNat ≤ (placed.nextPlace isUnion next).toNat := by
  rw [Placed.nextPlace]
  split
  · exact Nat.le_refl _
  · have hlast : next.toNat ≤ lastPlace.toNat := Nat.le_of_lt_succ next.toNat_lt
    rw [toNat_placeAfter]
    omega

/-- No field starts before the place from which the first is tried. -/
theorem le_start_of_mem_layout (haligns : Aligns isUnion next slots)
    (hplaced : placed ∈ layout isUnion next slots) : next.toNat ≤ placed.start.toNat := by
  induction slots generalizing next with
  | nil => contradiction
  | cons slot rest ih =>
    have hstart := le_start_place haligns.1
    cases hplaced with
    | head => exact hstart
    | tail _ hlater => exact Nat.le_trans (le_nextPlace hstart) (ih haligns.2 hlater)

/-- A later field of a struct starts where an earlier one ends, or behind it. -/
theorem pairwise_layout (haligns : Aligns false next slots) :
    (layout false next slots).Pairwise fun earlier later =>
      min earlier.stop lastPlace.toNat ≤ later.start.toNat := by
  induction slots generalizing next with
  | nil => exact .nil
  | cons slot rest ih =>
    apply List.Pairwise.cons _ (ih haligns.2)
    intro later hlater
    have hnext := le_start_of_mem_layout haligns.2 hlater
    rwa [Placed.nextPlace, if_neg Bool.false_ne_true, toNat_placeAfter] at hnext

namespace Variable

variable {left right : Variable}

theorem sharesBytes_comm (left right : Variable) :
    left.sharesBytes right = right.sharesBytes left := by
  simp only [sharesBytes]
  ac_rfl

/-- If the second of two fields does not start before the first one ends, the two share bytes only
if the first one ends beyond the last place. -/
theorem sharesBytes_eq_decide
    (hbehind : min (left.offset.toNat + left.size.toNat) lastPlace.toNat ≤ right.offset.toNat) :
    left.sharesBytes right =
      decide (lastPlace.toNat < left.offset.toNat + left.size.toNat ∧ right.size ≠ 0) := by
  have hleft : left.offset.toNat ≤ lastPlace.toNat := Nat.le_of_lt_succ left.offset.toNat_lt
  have hright : right.offset.toNat ≤ lastPlace.toNat := Nat.le_of_lt_succ right.offset.toNat_lt
  rw [Bool.eq_iff_iff]
  simp only [sharesBytes, Bool.and_eq_true, decide_eq_true_eq, ← UInt32.toNat_inj, ne_eq,
    UInt32.toNat_zero]
  omega

end Variable

end Declarations
