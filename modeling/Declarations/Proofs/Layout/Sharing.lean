import Declarations.Proofs.Layout.Placing

/-!
# Struct fields that share bytes

The fields of a struct are placed so that each starts where the one before it ends.  Ends are kept
below the last place while the question whether two fields share a byte is asked of all numbers, so
two fields do share one exactly if the earlier of them would end beyond the last place and the later
one is not empty.  Where that does not happen, nothing is marked.
-/

namespace Declarations.Arena

variable {arena after : Arena} {facts : TypeFacts} {owner : AggregateId} {next : UInt32}
variable {slots : List Slot} {fields : List DeclId} {earlier later : Placed}

def Occupies (arena : Arena) (owner : AggregateId) (placed : Placed) : Prop :=
  ∃ declaration state, arena.get placed.field = .ok declaration ∧
    declaration.memberOf? = some owner ∧ declaration.asVariable? = some state ∧
    state.offset = placed.start ∧ state.size = placed.size

/-- Every field of a list occupies the bytes that the layout gives it. -/
theorem occupies_of_mem_layout {isUnion : Bool} (hslots : ∀ slot ∈ slots, arena.HasSlot facts slot)
    (hdistinct : (slots.map Slot.field).Nodup) {placed : Placed}
    (hplaced : placed ∈ layout isUnion next slots) :
    ((layout isUnion next slots).foldl (put owner) arena).Occupies owner placed := by
  have hfield : placed.field ∈ slots.map Slot.field := by
    rw [← map_field_layout]
    exact List.mem_map_of_mem hplaced
  obtain ⟨slot, hslot, hsame⟩ := List.mem_map.mp hfield
  obtain ⟨declaration, hget, hsize⟩ := hslots slot hslot
  obtain ⟨state, hstate, -⟩ := Option.map_eq_some_iff.mp hsize
  rw [← map_field_layout] at hdistinct
  refine ⟨declaration.placedAt owner placed,
    { state with offset := placed.start, size := placed.size }, ?_,
    Declaration.memberOf?_placedAt, ?_, rfl, rfl⟩
  · rw [get_foldl_put hdistinct hplaced, ← hsame, hget, ok_map]
  · rw [Declaration.asVariable?_placedAt, hstate, Option.map_some]

/-- Of two fields, the second of which does not start before the first one ends, the first must end
beyond the last place if they overlap. -/
theorem fieldsOverlap_of_occupies (hearlier : after.Occupies owner earlier)
    (hlater : after.Occupies owner later) (hdifferent : earlier.field ≠ later.field)
    (hbehind : min earlier.stop lastPlace.toNat ≤ later.start.toNat) :
    after.fieldsOverlap earlier.field later.field = .ok (decide (earlier.RunsInto later)) ∧
      after.fieldsOverlap later.field earlier.field = .ok (decide (earlier.RunsInto later)) := by
  obtain ⟨first, firstState, hfirst, hfirstOwner, hfirstState, hfirstStart, hfirstSize⟩ := hearlier
  obtain ⟨second, secondState, hsecond, hsecondOwner, hsecondState, hsecondStart, hsecondSize⟩ :=
    hlater
  have hshares : firstState.sharesBytes secondState = decide (earlier.RunsInto later) := by
    rw [Placed.stop, ← hfirstStart, ← hfirstSize, ← hsecondStart] at hbehind
    rw [Variable.sharesBytes_eq_decide hbehind, hfirstStart, hfirstSize, hsecondSize]
    rfl
  constructor
  · simp [fieldsOverlap, hdifferent, hfirst, hsecond, Declaration.overlaps,
      Declaration.sameAggregate, hfirstOwner, hsecondOwner, hfirstState, hsecondState, hshares]
  · simp [fieldsOverlap, hdifferent.symm, hfirst, hsecond, Declaration.overlaps,
      Declaration.sameAggregate, hfirstOwner, hsecondOwner, hfirstState, hsecondState,
      Variable.sharesBytes_comm secondState, hshares]

/-- Two fields of a struct overlap exactly if the earlier one ends beyond the last place and the
later one is not empty. -/
theorem pairwise_fieldsOverlap (owner : AggregateId)
    (hslots : ∀ slot ∈ slots, arena.HasSlot facts slot)
    (hdistinct : (slots.map Slot.field).Nodup) (haligns : Aligns false next slots) :
    let after := (layout false next slots).foldl (put owner) arena
    (layout false next slots).Pairwise fun earlier later =>
      after.fieldsOverlap earlier.field later.field = .ok (decide (earlier.RunsInto later)) ∧
      after.fieldsOverlap later.field earlier.field = .ok (decide (earlier.RunsInto later)) := by
  intro after
  have hdifferent : (layout false next slots).Pairwise fun earlier later =>
      earlier.field ≠ later.field := by
    rw [← List.pairwise_map, map_field_layout]
    exact hdistinct
  apply List.Pairwise.imp_of_mem _ ((pairwise_layout haligns).and hdifferent)
  intro earlier later hearlier hlater hboth
  exact fieldsOverlap_of_occupies (occupies_of_mem_layout hslots hdistinct hearlier)
    (occupies_of_mem_layout hslots hdistinct hlater) hboth.2 hboth.1

/-! ## Marks -/

theorem markWithLater_of_apart {first : DeclId}
    (hapart : ∀ second ∈ fields, arena.fieldsOverlap first second = .ok false) :
    markWithLater facts owner first arena fields = .ok ([], arena) := by
  induction fields with
  | nil => rfl
  | cons second rest ih =>
    obtain ⟨hsecond, hrest⟩ := List.forall_mem_cons.mp hapart
    simp [markWithLater, markPair, hsecond, ih hrest]

/-- Where no two fields overlap, nothing is marked. -/
theorem markPairs_of_apart (hapart : fields.Pairwise fun first second =>
      arena.fieldsOverlap first second = .ok false) :
    markPairs facts owner arena fields = .ok ([], arena) := by
  induction fields with
  | nil => rfl
  | cons first rest ih =>
    rw [List.pairwise_cons] at hapart
    simp [markPairs, markWithLater_of_apart hapart.1, ih hapart.2]

/-! ## A whole struct -/

/-- Fields that share bytes only because one of them ends beyond the last place. -/
structure OverlapBeyond (facts : TypeFacts) (owner : AggregateId) (places : List Placed)
    (after : Arena) : Prop where
  /-- Two fields overlap exactly if the earlier one ends beyond the last place and the later one is
  not empty. -/
  overlap : places.Pairwise fun earlier later =>
    after.fieldsOverlap earlier.field later.field = .ok (decide (earlier.RunsInto later)) ∧
    after.fieldsOverlap later.field earlier.field = .ok (decide (earlier.RunsInto later))
  /-- If no field does so, none is marked and there is no warning. -/
  unmarked : (places.Pairwise fun earlier later => ¬earlier.RunsInto later) →
    after.markOverlaps facts owner = .ok ([], after)

/-- The fields that are placed one after the other in a new struct share bytes only because one of
them ends beyond the last place. -/
theorem placeFields_overlapBeyond {aggregate : Aggregate}
    (howner : arena.aggregate owner = .ok aggregate) (hempty : aggregate.fields = [])
    (hvariables : ∀ field ∈ fields, arena.IsVariable field) (hdistinct : fields.Nodup)
    (haligns : Aligns false 0 (arena.slots facts fields)) :
    let places := layout false 0 (arena.slots facts fields)
    places.map (·.field) = fields ∧
    ∃ last after, placeFields facts owner false arena 0 fields =
        .ok ((places.map Placed.start, last), after) ∧
      OverlapBeyond facts owner places after := by
  intro places
  have hslots : ∀ slot ∈ arena.slots facts fields, arena.HasSlot facts slot :=
    fun _ => hasSlot_of_mem_slots
  have hfields := map_field_slots facts hvariables
  have hplaces : places.map (·.field) = fields := map_field_layout.trans hfields
  have hexists : owner.number < arena.aggregates.size := lt_of_aggregate howner
  obtain ⟨last, hrun⟩ := placeFields_eq false 0 hslots hexists
  rw [hfields] at hrun
  have hnodup : ((arena.slots facts fields).map Slot.field).Nodup := by
    rw [hfields]
    exact hdistinct
  have hoverlap := pairwise_fieldsOverlap owner hslots hnodup haligns
  refine ⟨hplaces, last, _, hrun, hoverlap, ?_⟩
  intro hnone
  obtain ⟨grown, hgrown, hlisted⟩ := fields_foldl_put places howner
  have hapart : fields.Pairwise fun first second =>
      (places.foldl (put owner) arena).fieldsOverlap first second = .ok false := by
    rw [← hplaces, List.pairwise_map]
    apply (hoverlap.and hnone).imp
    intro earlier later hboth
    rw [hboth.1.1, decide_eq_false hboth.2]
  -- The marks are made over the list of the aggregate, which is that of the placed fields.
  rw [hempty, List.nil_append, hplaces] at hlisted
  rw [markOverlaps, hgrown, ok_bind, hlisted]
  exact markPairs_of_apart hapart

/-- A type that takes all bytes but the last, a small one, and one that is aligned. -/
def exampleFacts : TypeFacts :=
  .ofRows [{ type := ⟨1⟩, size := 4294967295 }, { type := ⟨2⟩, size := 10 },
    { type := ⟨3⟩, size := 4, alignment := 4 }]

def unplaced : Arena where
  declarations := #[.var ⟨11⟩ .synthetic (some ⟨1⟩), .var ⟨12⟩ .synthetic (some ⟨2⟩),
    .var ⟨13⟩ .synthetic (some ⟨2⟩), .var ⟨14⟩ .synthetic (some ⟨3⟩)]
  aggregates := #[{ name := ⟨10⟩, span := .synthetic, kind := .struct }]

theorem placeFields_overlapBeyond_padded :
    let fields : List DeclId := [⟨1⟩, ⟨3⟩, ⟨2⟩]
    let places := layout false 0 (unplaced.slots exampleFacts fields)
    ∃ aggregate, (unplaced.aggregate ⟨0⟩ = .ok aggregate ∧ aggregate.fields = [] ∧
      (∀ field ∈ fields, unplaced.IsVariable field) ∧ fields.Nodup ∧
      Aligns false 0 (unplaced.slots exampleFacts fields)) ∧
    places.map (·.field) = fields ∧
    ∃ last after, placeFields exampleFacts ⟨0⟩ false unplaced 0 fields =
        .ok ((places.map Placed.start, last), after) ∧
      OverlapBeyond exampleFacts ⟨0⟩ places after := by
  intro fields places
  have hvariables : ∀ field ∈ fields, unplaced.IsVariable field := by
    simp [fields, IsVariable, unplaced, get, Declaration.var, Declaration.asVariable?]
  have haligns : Aligns false 0 (unplaced.slots exampleFacts fields) := by decide
  exact ⟨_, ⟨rfl, rfl, hvariables, by decide, haligns⟩,
    placeFields_overlapBeyond rfl rfl hvariables (by decide) haligns⟩

/-- Behind a field that ends beyond the last place, two more start at that place and overlap. -/
theorem fieldsOverlap_behind_oversized :
    let fields : List DeclId := [⟨0⟩, ⟨1⟩, ⟨2⟩]
    ∃ aggregate, unplaced.aggregate ⟨0⟩ = .ok aggregate ∧ aggregate.fields = [] ∧
      (∀ field ∈ fields, unplaced.IsVariable field) ∧ fields.Nodup ∧
      Aligns false 0 (unplaced.slots exampleFacts fields) ∧
      ∃ answer after, placeFields exampleFacts ⟨0⟩ false unplaced 0 fields = .ok (answer, after) ∧
        after.fieldsOverlap ⟨1⟩ ⟨2⟩ = .ok true := by
  intro fields
  have hvariables : ∀ field ∈ fields, unplaced.IsVariable field := by
    simp [fields, IsVariable, unplaced, get, Declaration.var, Declaration.asVariable?]
  exact ⟨_, rfl, rfl, hvariables, by decide, by decide, _, _, rfl, by decide⟩

end Declarations.Arena
