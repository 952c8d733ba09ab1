import Declarations.Proofs.Arena.Closed
import Declarations.Proofs.Layout.Places

/-!
# Placing fields

To place the fields of an aggregate one after the other is to put each of them where the layout has
it.  Every placed variable then knows its place, its size and its aggregate, the aggregate lists the
fields in order and covers all of them, and nothing else changes.
-/

namespace Declarations

def Declaration.placedAt (declaration : Declaration) (owner : AggregateId) (placed : Placed) :
    Declaration :=
  { declaration.mapVariable fun state =>
      { state with offset := placed.start, size := placed.size } with
    storage := insert .field declaration.storage
    owner := .aggregate owner }

def Aggregate.withField (aggregate : Aggregate) (placed : Placed) : Aggregate :=
  { aggregate with
    size := max aggregate.size (placeAfter placed.start placed.size)
    fields := aggregate.fields ++ [placed.field] }

/-- Taking up fields adds them to the list and covers each of them. -/
theorem Aggregate.foldl_withField (fields : List Placed) (aggregate : Aggregate) :
    fields.foldl withField aggregate =
      { aggregate with
        size := fields.foldl (fun size placed => max size (placeAfter placed.start placed.size))
          aggregate.size
        fields := aggregate.fields ++ fields.map (·.field) } := by
  induction fields generalizing aggregate with
  | nil => simp
  | cons placed rest ih => simp [ih, withField]

/-- The alignment of a field is never zero. -/
theorem Declaration.fieldAlignment_pos (facts : TypeFacts) (declaration : Declaration)
    (state : Variable) : 0 < declaration.fieldAlignment facts state := by
  have hmax (asked : UInt32) : max 1 asked = if 1 ≤ asked then asked else 1 := rfl
  rw [fieldAlignment, hmax]
  split
  · next hone => exact UInt32.lt_of_lt_of_le (by decide) hone
  · decide

def Declaration.slot? (facts : TypeFacts) (field : DeclId) (declaration : Declaration) :
    Option Slot :=
  declaration.asVariable?.map fun state =>
    { field
      size := declaration.fieldSize facts
      alignment := declaration.fieldAlignment facts state
      alignment_pos := declaration.fieldAlignment_pos facts state }

namespace Declaration

variable {declaration : Declaration} {owner : AggregateId} {placed : Placed}

theorem field_of_slot? {facts : TypeFacts} {field : DeclId} {slot : Slot}
    (hslot : declaration.slot? facts field = some slot) : slot.field = field := by
  obtain ⟨state, -, hstate⟩ := Option.map_eq_some_iff.mp hslot
  rw [← hstate]

theorem asVariable?_placedAt : (declaration.placedAt owner placed).asVariable? =
    declaration.asVariable?.map fun state =>
      { state with offset := placed.start, size := placed.size } := by
  cases hentity : declaration.entity <;> simp [placedAt, mapVariable, asVariable?, hentity]

@[simp]
theorem memberOf?_placedAt : (declaration.placedAt owner placed).memberOf? = some owner :=
  rfl

theorem type_placedAt : (declaration.placedAt owner placed).type = declaration.type := by
  cases hentity : declaration.entity <;> simp [placedAt, mapVariable, hentity]

/-- A placed field still takes as much room as before. -/
theorem slot?_placedAt (facts : TypeFacts) (field : DeclId) :
    (declaration.placedAt owner placed).slot? facts field = declaration.slot? facts field := by
  cases hvariable : declaration.asVariable? with
  | none => simp [slot?, asVariable?_placedAt, hvariable]
  | some state =>
    simp [slot?, asVariable?_placedAt, hvariable, fieldSize, fieldAlignment, type_placedAt]

end Declaration

namespace Arena

def put (owner : AggregateId) (arena : Arena) (placed : Placed) : Arena :=
  { arena with
    declarations := arena.declarations.modify placed.field.number (·.placedAt owner placed)
    aggregates := arena.aggregates.modify owner.number (·.withField placed) }

/-- Places variables one after the other as fields of an aggregate.  The answer is their places and
the place from which the next field is tried. -/
def placeFields (facts : TypeFacts) (owner : AggregateId) (isUnion : Bool) :
    Arena → UInt32 → List DeclId → Except Fault ((List UInt32 × UInt32) × Arena)
  | arena, next, [] => .ok (([], next), arena)
  | arena, next, field :: rest => do
      let ((start, next), arena) ← arena.placeField facts owner field next isUnion
      let ((starts, next), arena) ← placeFields facts owner isUnion arena next rest
      return ((start :: starts, next), arena)

def slot? (arena : Arena) (facts : TypeFacts) (field : DeclId) : Option Slot :=
  match arena.get field with
  | .ok declaration => declaration.slot? facts field
  | .error _ => none

def slots (arena : Arena) (facts : TypeFacts) (fields : List DeclId) : List Slot :=
  fields.filterMap (arena.slot? facts)

def HasSlot (arena : Arena) (facts : TypeFacts) (slot : Slot) : Prop :=
  ∃ declaration, arena.get slot.field = .ok declaration ∧
    declaration.slot? facts slot.field = some slot

variable {arena : Arena} {facts : TypeFacts} {owner : AggregateId} {isUnion : Bool} {next : UInt32}
variable {slot : Slot} {slots : List Slot} {placed : Placed}

theorem lt_of_aggregate {aggregate : Aggregate} (howner : arena.aggregate owner = .ok aggregate) :
    owner.number < arena.aggregates.size := by
  rw [Arena.aggregate] at howner
  split at howner
  · next hfound => exact (Array.getElem?_eq_some_iff.mp hfound).1
  · contradiction

theorem hasSlot_of_slot? {field : DeclId} (hslot : arena.slot? facts field = some slot) :
    arena.HasSlot facts slot := by
  rw [slot?] at hslot
  split at hslot
  · next declaration hget =>
    have hsame : slot.field = field := Declaration.field_of_slot? hslot
    rw [← hsame] at hget hslot
    exact ⟨declaration, hget, hslot⟩
  · contradiction

theorem hasSlot_of_mem_slots {fields : List DeclId} (hslot : slot ∈ arena.slots facts fields) :
    arena.HasSlot facts slot := by
  obtain ⟨field, -, hfield⟩ := List.mem_filterMap.mp hslot
  exact hasSlot_of_slot? hfield

/-- Every variable of a list has its slot. -/
theorem map_field_slots {fields : List DeclId} (facts : TypeFacts)
    (hvariables : ∀ field ∈ fields, arena.IsVariable field) :
    (arena.slots facts fields).map Slot.field = fields := by
  induction fields with
  | nil => rfl
  | cons field rest ih =>
    obtain ⟨hfield, hrest⟩ := List.forall_mem_cons.mp hvariables
    obtain ⟨declaration, hget, hvariable⟩ := hfield
    obtain ⟨state, hstate⟩ := Option.isSome_iff_exists.mp hvariable
    have hslot : ∃ slot, arena.slot? facts field = some slot ∧ slot.field = field := by
      simp [slot?, hget, Declaration.slot?, hstate]
    obtain ⟨slot, hslot, hsame⟩ := hslot
    rw [slots, List.filterMap_cons, hslot, List.map_cons, hsame]
    exact congrArg (field :: ·) (ih hrest)

/-! ## One field -/

/-- The place of one field changes its declaration and the aggregate. -/
theorem get_put (arena : Arena) (owner : AggregateId) (placed : Placed) (id : DeclId) :
    (arena.put owner placed).get id =
      if id = placed.field then (arena.get id).map (·.placedAt owner placed)
      else arena.get id := by
  have hsame : placed.field.number = id.number ↔ id = placed.field := by
    cases id
    cases placed.field
    rw [DeclId.mk.injEq, eq_comm]
  simp only [get, put, Array.getElem?_modify, hsame]
  by_cases hfield : id = placed.field
  · rw [if_pos hfield, if_pos hfield]
    cases arena.declarations[id.number]? with
    | none => rfl
    | some declaration => rfl
  · rw [if_neg hfield, if_neg hfield]

theorem aggregate_put (arena : Arena) (owner : AggregateId) (placed : Placed) :
    (arena.put owner placed).aggregate owner =
      (arena.aggregate owner).map (·.withField placed) := by
  simp only [put, aggregate, Array.getElem?_modify]
  cases arena.aggregates[owner.number]? with
  | none => simp
  | some aggregate => simp

/-- A variable of known size is put where the layout has it. -/
theorem placeField_eq (hslot : arena.HasSlot facts slot)
    (howner : owner.number < arena.aggregates.size) :
    arena.placeField facts owner slot.field next isUnion =
      .ok (((slot.place next).start, (slot.place next).nextPlace isUnion next),
        arena.put owner (slot.place next)) := by
  obtain ⟨declaration, hget, hsize⟩ := hslot
  cases hvariable : declaration.asVariable? with
  | none => simp [Declaration.slot?, hvariable] at hsize
  | some state =>
    rw [Declaration.slot?, hvariable, Option.map_some, Option.some.injEq] at hsize
    rw [← hsize]
    simp only [placeField, hget, ok_bind, hvariable, modify, lt_of_get hget, if_true,
      modifyAggregate, howner, pure_eq_ok]
    rfl

theorem HasSlot.put (hslot : arena.HasSlot facts slot) (owner : AggregateId) (placed : Placed) :
    (arena.put owner placed).HasSlot facts slot := by
  obtain ⟨declaration, hget, hsize⟩ := hslot
  by_cases hsame : slot.field = placed.field
  · refine ⟨declaration.placedAt owner placed, ?_, ?_⟩
    · rw [get_put, if_pos hsame, hget, ok_map]
    · rw [Declaration.slot?_placedAt, hsize]
  · refine ⟨declaration, ?_, hsize⟩
    rw [get_put, if_neg hsame, hget]

/-! ## A list of fields -/

/-- Variables of known sizes are put where the layout has them, and the next field is tried where
the layout has it. -/
theorem placeFields_eq_layout (isUnion : Bool) (next : UInt32)
    (hslots : ∀ slot ∈ slots, arena.HasSlot facts slot)
    (howner : owner.number < arena.aggregates.size) :
    placeFields facts owner isUnion arena next (slots.map Slot.field) =
      .ok (((layout isUnion next slots).map Placed.start, nextAfter isUnion next slots),
        (layout isUnion next slots).foldl (put owner) arena) := by
  induction slots generalizing arena next with
  | nil => rfl
  | cons slot rest ih =>
    obtain ⟨hslot, hrest⟩ := List.forall_mem_cons.mp hslots
    have hlater : ∀ other ∈ rest, (arena.put owner (slot.place next)).HasSlot facts other := by
      intro other hother
      exact (hrest other hother).put owner (slot.place next)
    have hexists : owner.number < (arena.put owner (slot.place next)).aggregates.size := by
      simpa [put] using howner
    have hothers := ih ((slot.place next).nextPlace isUnion next) hlater hexists
    simp [placeFields, placeField_eq hslot howner, layout, nextAfter, hothers]

theorem placeFields_eq (isUnion : Bool) (next : UInt32)
    (hslots : ∀ slot ∈ slots, arena.HasSlot facts slot)
    (howner : owner.number < arena.aggregates.size) :
    ∃ last, placeFields facts owner isUnion arena next (slots.map Slot.field) =
      .ok (((layout isUnion next slots).map Placed.start, last),
        (layout isUnion next slots).foldl (put owner) arena) :=
  ⟨_, placeFields_eq_layout isUnion next hslots howner⟩

/-- A declaration that is not among the fields stays as it is. -/
theorem get_foldl_put_of_notMem {fields : List Placed} {id : DeclId}
    (hid : ∀ placed ∈ fields, placed.field ≠ id) :
    (fields.foldl (put owner) arena).get id = arena.get id := by
  induction fields generalizing arena with
  | nil => rfl
  | cons placed rest ih =>
    obtain ⟨hplaced, hrest⟩ := List.forall_mem_cons.mp hid
    rw [List.foldl_cons, ih hrest, get_put, if_neg (Ne.symm hplaced)]

/-- Each of several different fields ends up at its place. -/
theorem get_foldl_put {fields : List Placed} (hdistinct : (fields.map (·.field)).Nodup)
    (hplaced : placed ∈ fields) :
    (fields.foldl (put owner) arena).get placed.field =
      (arena.get placed.field).map (·.placedAt owner placed) := by
  induction fields generalizing arena with
  | nil => contradiction
  | cons first rest ih =>
    rw [List.map_cons, List.nodup_cons] at hdistinct
    have hothers : ∀ other ∈ rest, other.field ≠ first.field := by
      intro other hother hsame
      apply hdistinct.1
      rw [← hsame]
      exact List.mem_map_of_mem hother
    rw [List.foldl_cons]
    cases hplaced with
    | head => rw [get_foldl_put_of_notMem hothers, get_put, if_pos rfl]
    | tail _ hmem => rw [ih hdistinct.2 hmem, get_put, if_neg (hothers placed hmem)]

/-- The aggregate takes up the fields one after the other. -/
theorem aggregate_foldl_put (fields : List Placed) {aggregate : Aggregate}
    (howner : arena.aggregate owner = .ok aggregate) :
    (fields.foldl (put owner) arena).aggregate owner =
      .ok (fields.foldl Aggregate.withField aggregate) := by
  induction fields generalizing arena aggregate with
  | nil => exact howner
  | cons placed rest ih =>
    have hput : (arena.put owner placed).aggregate owner = .ok (aggregate.withField placed) := by
      rw [aggregate_put, howner, ok_map]
    exact ih hput

/-- No other aggregate changes. -/
theorem aggregate_foldl_put_of_ne {fields : List Placed} {other : AggregateId}
    (hother : other ≠ owner) :
    (fields.foldl (put owner) arena).aggregate other = arena.aggregate other := by
  induction fields generalizing arena with
  | nil => rfl
  | cons placed rest ih =>
    have hplace : owner.number ≠ other.number := by
      intro hsame
      exact hother (by rw [← AggregateId.mk.injEq] at hsame; exact hsame.symm)
    rw [List.foldl_cons, ih]
    simp only [put, aggregate, Array.getElem?_modify, if_neg hplace]

/-- The aggregate lists the fields in the order in which they were placed. -/
theorem fields_foldl_put (fields : List Placed) {aggregate : Aggregate}
    (howner : arena.aggregate owner = .ok aggregate) :
    ∃ last, (fields.foldl (put owner) arena).aggregate owner = .ok last ∧
      last.fields = aggregate.fields ++ fields.map (·.field) := by
  refine ⟨_, aggregate_foldl_put fields howner, ?_⟩
  rw [Aggregate.foldl_withField]

end Arena

end Declarations
