import Declarations.Proofs.Layout.Exact
import Declarations.Proofs.Layout.Overlap
import Declarations.Proofs.Layout.Sharing

/-!
# Fields of a union

Every field of a union is tried from the same place, but each is aligned by itself.  So the fields
start together exactly if their alignments lead from that place to the same multiple, as they do
when the place is a multiple of all of them.  Only then is it certain that two fields that are not
empty overlap; behind an odd place a small field may end before a more aligned one starts.
-/

namespace Declarations

variable {next : UInt32} {slots : List Slot}

/-- The alignments of some fields lead from a place to the same multiple. -/
def RoundAlike (next : UInt32) (slots : List Slot) : Prop :=
  ∀ first ∈ slots, ∀ second ∈ slots,
    (first.extent next.toNat).start = (second.extent next.toNat).start

instance (next : UInt32) (slots : List Slot) : Decidable (RoundAlike next slots) :=
  inferInstanceAs (Decidable (∀ first ∈ slots, ∀ second ∈ slots,
    (first.extent next.toNat).start = (second.extent next.toNat).start))

/-- Each field of a union is tried from the same place. -/
theorem layout_union : layout true next slots = slots.map (·.place next) := by
  induction slots with
  | nil => rfl
  | cons slot rest ih => rw [List.map_cons, ← ih]; rfl

theorem nextAfter_union : nextAfter true next slots = next := by
  induction slots with
  | nil => rfl
  | cons slot rest ih => exact ih

namespace Arena

variable {arena after : Arena} {facts : TypeFacts} {owner : AggregateId} {fields : List DeclId}
  {placed earlier later : Placed}

/-- A field has the bytes that it occupies. -/
theorem Occupies.hasByte_iff (hoccupies : arena.Occupies owner placed) {other : AggregateId}
    {byte : Nat} : arena.HasByte other placed.field byte ↔
      other = owner ∧ placed.extent.start ≤ byte ∧ byte < placed.extent.stop := by
  obtain ⟨declaration, state, hget, howner, hstate, hstart, hsize⟩ := hoccupies
  have hcovers : state.Covers byte ↔
      placed.extent.start ≤ byte ∧ byte < placed.extent.stop := by
    rw [Variable.Covers, hstart, hsize]
    rfl
  constructor
  · rintro ⟨_, _, hread, hother, hvariable, hbyte⟩
    obtain rfl := Except.ok.inj (hget.symm.trans hread)
    obtain rfl := Option.some.inj (hstate.symm.trans hvariable)
    exact ⟨Option.some.inj (hother.symm.trans howner), hcovers.mp hbyte⟩
  · rintro ⟨rfl, hbyte⟩
    exact ⟨declaration, state, hget, howner, hstate, hcovers.mpr hbyte⟩

theorem Occupies.lt (hoccupies : arena.Occupies owner placed) :
    placed.field.number < arena.size := by
  obtain ⟨declaration, state, hget, -⟩ := hoccupies
  exact lt_of_get hget

/-- Two fields that occupy bytes of one aggregate overlap if both have bytes and each starts before
the other one ends. -/
theorem fieldsOverlap_eq_of_occupies (hearlier : arena.Occupies owner earlier)
    (hlater : arena.Occupies owner later) (hdifferent : earlier.field ≠ later.field)
    (hsome : earlier.size ≠ 0) (hother : later.size ≠ 0) :
    arena.fieldsOverlap earlier.field later.field =
      .ok (decide (earlier.extent.start < later.extent.stop ∧
        later.extent.start < earlier.extent.stop)) := by
  rw [fieldsOverlap_eq hearlier.lt hlater.lt, Except.ok.injEq, decide_eq_decide]
  have hearlierBytes := Placed.start_lt_stop hsome
  have hlaterBytes := Placed.start_lt_stop hother
  simp only [Overlap, hearlier.hasByte_iff, hlater.hasByte_iff]
  constructor
  · rintro ⟨-, _, byte, ⟨-, hfirst⟩, -, hsecond⟩
    omega
  · intro hmeet
    refine ⟨hdifferent, owner, max earlier.extent.start later.extent.start, ⟨rfl, ?_⟩, rfl, ?_⟩
    · omega
    · omega

/-- Where the fields of a union come to stand, and which of them overlap. -/
structure UnionPlaces (next : UInt32) (slots : List Slot) (starts : List UInt32)
    (after : Arena) : Prop where
  /-- Each field starts at the least multiple of its own alignment. -/
  starts_eq : starts.map UInt32.toNat = slots.map fun slot => (slot.extent next.toNat).start
  /-- All start together exactly if these multiples are the same. -/
  together_iff : (∀ first ∈ starts, ∀ second ∈ starts, first = second) ↔ RoundAlike next slots
  /-- This is so behind a multiple of all alignments. -/
  start_eq : (∀ slot ∈ slots, slot.alignment.toNat ∣ next.toNat) → ∀ start ∈ starts, start = next
  /-- Two fields that are not empty overlap if each starts before the other one ends. -/
  overlap_eq : ∀ first ∈ slots, ∀ second ∈ slots, first.field ≠ second.field →
    first.size ≠ 0 → second.size ≠ 0 →
    after.fieldsOverlap first.field second.field =
      .ok (decide ((first.extent next.toNat).start < (second.extent next.toNat).stop ∧
        (second.extent next.toNat).start < (first.extent next.toNat).stop))
  /-- They do if all start together. -/
  overlap_of_alike : RoundAlike next slots → ∀ first ∈ slots, ∀ second ∈ slots,
    first.field ≠ second.field → first.size ≠ 0 → second.size ≠ 0 →
    after.fieldsOverlap first.field second.field = .ok true

/-- Different fields that end within the places have their places in a union once they are put
there. -/
theorem unionPlaces_foldl_put (owner : AggregateId)
    (hslots : ∀ slot ∈ slots, arena.HasSlot facts slot)
    (hdistinct : (slots.map Slot.field).Nodup)
    (hfits : ∀ slot ∈ slots, (slot.extent next.toNat).stop < UInt32.size) :
    UnionPlaces next slots ((layout true next slots).map Placed.start)
      ((layout true next slots).foldl (put owner) arena) := by
  have hstart : ∀ slot ∈ slots,
      (slot.place next).start.toNat = (slot.extent next.toNat).start := by
    intro slot hslot
    rw [← extent_place (hfits slot hslot)]
    rfl
  have hoverlap : ∀ first ∈ slots, ∀ second ∈ slots, first.field ≠ second.field →
      first.size ≠ 0 → second.size ≠ 0 →
      ((layout true next slots).foldl (put owner) arena).fieldsOverlap first.field second.field =
        .ok (decide ((first.extent next.toNat).start < (second.extent next.toNat).stop ∧
          (second.extent next.toNat).start < (first.extent next.toNat).stop)) := by
    intro first hfirst second hsecond hdifferent hsome hother
    have hoccupies : ∀ slot ∈ slots, ((layout true next slots).foldl (put owner) arena).Occupies
        owner (slot.place next) := by
      intro slot hslot
      apply occupies_of_mem_layout hslots hdistinct
      rw [layout_union]
      exact List.mem_map_of_mem hslot
    rw [← extent_place (hfits first hfirst), ← extent_place (hfits second hsecond)]
    exact fieldsOverlap_eq_of_occupies (hoccupies first hfirst) (hoccupies second hsecond)
      hdifferent hsome hother
  constructor
  case starts_eq =>
    rw [layout_union, List.map_map, List.map_map]
    exact List.map_congr_left hstart
  case together_iff =>
    rw [layout_union, List.map_map]
    simp only [List.forall_mem_map, Function.comp_apply, RoundAlike, ← UInt32.toNat_inj]
    constructor
    · intro htogether first hfirst second hsecond
      rw [← hstart first hfirst, ← hstart second hsecond]
      exact htogether first hfirst second hsecond
    · intro halike first hfirst second hsecond
      rw [hstart first hfirst, hstart second hsecond]
      exact halike first hfirst second hsecond
  case start_eq =>
    intro hmultiple
    rw [layout_union, List.map_map]
    simp only [List.forall_mem_map, Function.comp_apply, ← UInt32.toNat_inj]
    intro slot hslot
    rw [hstart slot hslot, Slot.extent, roundUp_of_dvd (hmultiple slot hslot)]
  case overlap_eq => exact hoverlap
  case overlap_of_alike =>
    intro halike first hfirst second hsecond hdifferent hsome hother
    have hsame := halike first hfirst second hsecond
    have hbytes : ∀ slot ∈ slots, slot.size ≠ 0 →
        (slot.extent next.toNat).start < (slot.extent next.toNat).stop := by
      intro slot hslot hsize
      rw [← extent_place (hfits slot hslot)]
      exact Placed.start_lt_stop hsize
    have hmeet : (first.extent next.toNat).start < (second.extent next.toNat).stop ∧
        (second.extent next.toNat).start < (first.extent next.toNat).stop :=
      ⟨hsame ▸ hbytes second hsecond hother, hsame.symm ▸ hbytes first hfirst hsome⟩
    rw [hoverlap first hfirst second hsecond hdifferent hsome hother, decide_eq_true hmeet]

/-- The fields that are placed one after the other in a union are all tried from the same place, and
start together exactly if their alignments lead from there to the same multiple. -/
theorem placeFields_union {aggregate : Aggregate}
    (howner : arena.aggregate owner = .ok aggregate)
    (hvariables : ∀ field ∈ fields, arena.IsVariable field) (hdistinct : fields.Nodup)
    (next : UInt32)
    (hfits : ∀ slot ∈ arena.slots facts fields, (slot.extent next.toNat).stop < UInt32.size) :
    (arena.slots facts fields).map Slot.field = fields ∧
    ∃ starts after,
      placeFields facts owner true arena next fields = .ok ((starts, next), after) ∧
      UnionPlaces next (arena.slots facts fields) starts after := by
  have hfields := map_field_slots facts hvariables
  have hslots : ∀ slot ∈ arena.slots facts fields, arena.HasSlot facts slot :=
    fun _ => hasSlot_of_mem_slots
  have hrun := placeFields_eq_layout true next hslots (lt_of_aggregate howner)
  rw [hfields, nextAfter_union] at hrun
  refine ⟨hfields, _, _, hrun, unionPlaces_foldl_put owner hslots ?_ hfits⟩
  rwa [hfields]

def byteAndWord : TypeFacts :=
  .ofRows [{ type := ⟨1⟩, size := 1 }, { type := ⟨2⟩, size := 4, alignment := 4 }]

/-- A struct of one byte, and two variables that are to form a union behind it. -/
def unionBehindByte : Arena where
  declarations := #[.var ⟨11⟩ .synthetic (some ⟨2⟩), .var ⟨12⟩ .synthetic (some ⟨1⟩)]
  aggregates := #[{ name := ⟨10⟩, span := .synthetic, kind := .struct, size := 1 }]

theorem placeFields_union_behindByte :
    let fields : List DeclId := [⟨0⟩, ⟨1⟩]
    let slots := unionBehindByte.slots byteAndWord fields
    ∃ aggregate, (unionBehindByte.aggregate ⟨0⟩ = .ok aggregate ∧
      (∀ field ∈ fields, unionBehindByte.IsVariable field) ∧ fields.Nodup ∧
      ∀ slot ∈ slots, (slot.extent (4 : UInt32).toNat).stop < UInt32.size) ∧
    RoundAlike 4 slots ∧ slots.map Slot.field = fields ∧
    ∃ starts after,
      placeFields byteAndWord ⟨0⟩ true unionBehindByte 4 fields = .ok ((starts, 4), after) ∧
      UnionPlaces 4 slots starts after := by
  intro fields slots
  have hvariables : ∀ field ∈ fields, unionBehindByte.IsVariable field := by
    simp [fields, IsVariable, unionBehindByte, get, Declaration.var, Declaration.asVariable?]
  have hfits : ∀ slot ∈ slots, (slot.extent (4 : UInt32).toNat).stop < UInt32.size := by decide
  exact ⟨_, ⟨rfl, hvariables, by decide, hfits⟩, by decide,
    placeFields_union rfl hvariables (by decide) 4 hfits⟩

/-- Behind one byte the two fields start apart, and the byte ends before the word starts. -/
theorem placeFields_union_apart :
    let fields : List DeclId := [⟨0⟩, ⟨1⟩]
    let slots := unionBehindByte.slots byteAndWord fields
    ∃ aggregate, unionBehindByte.aggregate ⟨0⟩ = .ok aggregate ∧
      (∀ field ∈ fields, unionBehindByte.IsVariable field) ∧ fields.Nodup ∧
      (∀ slot ∈ slots, (slot.extent (1 : UInt32).toNat).stop < UInt32.size) ∧
      (∀ slot ∈ slots, slot.size ≠ 0) ∧
      ∃ after, placeFields byteAndWord ⟨0⟩ true unionBehindByte 1 fields =
          .ok (([4, 1], 1), after) ∧
        after.fieldsOverlap ⟨0⟩ ⟨1⟩ = .ok false := by
  intro fields slots
  have hvariables : ∀ field ∈ fields, unionBehindByte.IsVariable field := by
    simp [fields, IsVariable, unionBehindByte, get, Declaration.var, Declaration.asVariable?]
  exact ⟨_, rfl, hvariables, by decide, by decide, by decide, _, rfl, by decide⟩

end Arena

end Declarations
