/-!
# Sets of flags

A declaration, a variable, a function and a type each carry several independent yes-or-no
properties.  Every family of such properties is a finite type whose members are listed in a fixed
order, and a set of them is a machine word with one bit per member.  Words of that exact width have
no bits outside the family, so two sets with the same members are equal, and every set operation is
one word operation.

Other programs number the properties of a family with gaps.  `Flag.bit` keeps that numbering, and
`FlagSet.toBits` and `FlagSet.ofBits` convert to and from it.
-/

namespace Declarations

/-- A finite family of flags, listed once each, with the number that other programs use for each. -/
class Flag (α : Type) [DecidableEq α] where
  /-- Every member of the family, in the order in which sets list them. -/
  all : List α
  mem_all : ∀ flag : α, flag ∈ all
  nodup_all : all.Nodup
  /-- The position of a flag in the external numbering. -/
  bit : α → Nat

/-- A set of flags, held as a word with one bit for each member of the family. -/
structure FlagSet (α : Type) [DecidableEq α] [Flag α] where
  mask : BitVec (Flag.all : List α).length

namespace FlagSet

variable {α : Type} [DecidableEq α] [Flag α]

instance : DecidableEq (FlagSet α) := fun left right =>
  if same : left.mask = right.mask then
    isTrue (by cases left; cases right; congr)
  else
    isFalse fun equal => same (congrArg mask equal)

def index (flag : α) : Nat :=
  (Flag.all : List α).idxOf flag

theorem index_lt (flag : α) : index flag < (Flag.all : List α).length :=
  List.idxOf_lt_length_of_mem (Flag.mem_all flag)

theorem index_inj {first second : α} : index first = index second ↔ first = second := by
  constructor
  · intro same
    have hbound := index_lt first
    have hother := index_lt second
    have hfirst : (Flag.all : List α)[index first] = first := List.getElem_idxOf hbound
    have hsecond : (Flag.all : List α)[index second] = second := List.getElem_idxOf hother
    simpa only [same, hsecond, eq_comm] using hfirst
  · rintro rfl
    rfl

def contains (set : FlagSet α) (flag : α) : Bool :=
  set.mask.getLsbD (index flag)

instance : Membership α (FlagSet α) :=
  ⟨fun set flag => set.contains flag = true⟩

theorem mem_iff {set : FlagSet α} {flag : α} : flag ∈ set ↔ set.contains flag = true :=
  Iff.rfl

instance (set : FlagSet α) (flag : α) : Decidable (flag ∈ set) :=
  inferInstanceAs (Decidable (set.contains flag = true))

/-- Two sets with the same members are the same set, because a word has no bit outside the family.
-/
@[ext]
theorem ext {left right : FlagSet α} (same : ∀ flag, flag ∈ left ↔ flag ∈ right) :
    left = right := by
  obtain ⟨left⟩ := left
  obtain ⟨right⟩ := right
  congr 1
  apply BitVec.eq_of_getLsbD_eq
  intro position hposition
  have hflag := same (Flag.all : List α)[position]
  simp only [mem_iff, contains, index,
    List.Nodup.idxOf_getElem Flag.nodup_all position hposition] at hflag
  exact Bool.eq_iff_iff.mpr hflag

instance : EmptyCollection (FlagSet α) := ⟨⟨0⟩⟩

instance : Inhabited (FlagSet α) := ⟨∅⟩

@[simp]
theorem not_mem_empty (flag : α) : flag ∉ (∅ : FlagSet α) := by
  simp [mem_iff, contains, EmptyCollection.emptyCollection]

def full : FlagSet α := ⟨BitVec.allOnes _⟩

@[simp]
theorem mem_full (flag : α) : flag ∈ (full : FlagSet α) := by
  simp [mem_iff, contains, full, index_lt]

instance : Singleton α (FlagSet α) := ⟨fun flag => ⟨BitVec.twoPow _ (index flag)⟩⟩

@[simp]
theorem mem_singleton {flag other : α} : other ∈ ({flag} : FlagSet α) ↔ other = flag := by
  have hbound := index_lt flag
  simp [mem_iff, contains, Singleton.singleton, index_inj, hbound, eq_comm]

instance : Union (FlagSet α) := ⟨fun left right => ⟨left.mask ||| right.mask⟩⟩

@[simp]
theorem mem_union {left right : FlagSet α} {flag : α} :
    flag ∈ left ∪ right ↔ flag ∈ left ∨ flag ∈ right := by
  simp [mem_iff, contains, Union.union]

instance : Inter (FlagSet α) := ⟨fun left right => ⟨left.mask &&& right.mask⟩⟩

@[simp]
theorem mem_inter {left right : FlagSet α} {flag : α} :
    flag ∈ left ∩ right ↔ flag ∈ left ∧ flag ∈ right := by
  simp [mem_iff, contains, Inter.inter]

instance : SDiff (FlagSet α) := ⟨fun left right => ⟨left.mask &&& ~~~right.mask⟩⟩

@[simp]
theorem mem_sdiff {left right : FlagSet α} {flag : α} :
    flag ∈ left \ right ↔ flag ∈ left ∧ flag ∉ right := by
  simp [mem_iff, contains, SDiff.sdiff, index_lt]

instance : Insert α (FlagSet α) := ⟨fun flag set => {flag} ∪ set⟩

@[simp]
theorem mem_insert {set : FlagSet α} {flag other : α} :
    other ∈ insert flag set ↔ other = flag ∨ other ∈ set := by
  change other ∈ ({flag} : FlagSet α) ∪ set ↔ _
  simp

/-- A set is below another when nothing is left of it without the other. -/
instance : HasSubset (FlagSet α) := ⟨fun left right => left \ right = ∅⟩

instance (left right : FlagSet α) : Decidable (left ⊆ right) :=
  inferInstanceAs (Decidable (left \ right = ∅))

theorem subset_iff {left right : FlagSet α} : left ⊆ right ↔ ∀ flag ∈ left, flag ∈ right := by
  change left \ right = ∅ ↔ _
  constructor
  · intro none_left flag hflag
    have hnot : flag ∉ left \ right := by simp [none_left]
    simpa [hflag] using hnot
  · intro hsubset
    ext flag
    simpa using hsubset flag

/-- Whether two sets share a flag. -/
def meets (left right : FlagSet α) : Bool :=
  left ∩ right ≠ ∅

theorem meets_iff {left right : FlagSet α} :
    left.meets right = true ↔ ∃ flag ∈ left, flag ∈ right := by
  have hempty : left ∩ right = ∅ ↔ ¬∃ flag ∈ left, flag ∈ right := by
    constructor
    · rintro hempty ⟨flag, hleft, hright⟩
      have hnot : flag ∉ left ∩ right := by rw [hempty]; exact not_mem_empty flag
      exact hnot (mem_inter.mpr ⟨hleft, hright⟩)
    · intro hnone
      ext flag
      simpa using fun hleft hright => hnone ⟨flag, hleft, hright⟩
  rw [meets, decide_eq_true_iff, ne_eq, hempty, Classical.not_not]

def symmDiff (left right : FlagSet α) : FlagSet α :=
  (left \ right) ∪ (right \ left)

/-- The members of a set, in the order of the family. -/
def toList (set : FlagSet α) : List α :=
  (Flag.all : List α).filter set.contains

@[simp]
theorem mem_toList {set : FlagSet α} {flag : α} : flag ∈ set.toList ↔ flag ∈ set := by
  simp [toList, mem_iff, Flag.mem_all]

def ofList (flags : List α) : FlagSet α :=
  flags.foldr insert ∅

@[simp]
theorem mem_ofList {flags : List α} {flag : α} : flag ∈ ofList flags ↔ flag ∈ flags := by
  induction flags with
  | nil => simp [ofList]
  | cons head tail ih => simpa [ofList] using or_congr_right ih

/-- A set written in the external numbering, with one bit for each member. -/
def toBits (set : FlagSet α) : Nat :=
  set.toList.foldr (fun flag bits => (1 <<< Flag.bit flag) ||| bits) 0

/-- The set that a number of the external numbering stands for; bits of no flag are ignored. -/
def ofBits (bits : Nat) : FlagSet α :=
  ofList ((Flag.all : List α).filter fun flag => bits.testBit (Flag.bit flag))

@[simp]
theorem mem_ofBits {bits : Nat} {flag : α} :
    flag ∈ (ofBits bits : FlagSet α) ↔ bits.testBit (Flag.bit flag) = true := by
  simp [ofBits, Flag.mem_all]

end FlagSet

end Declarations
