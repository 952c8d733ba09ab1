import Declarations.Proofs.Layout.Placing
import Mathlib.Order.Bounds.Basic

/-!
# The layout among all numbers

Places are numbers of 32 bits.  As long as every field of a struct ends within them, the fields come
to stand where they would stand if there were no last place: each starts at the least multiple of
its alignment that is not less than the end of the field before it.
-/

namespace Declarations

theorem roundUp_of_dvd {place alignment : Nat} (hmultiple : alignment ∣ place) :
    roundUp place alignment = place := by
  rw [roundUp, Nat.mod_eq_zero_of_dvd hmultiple, Nat.sub_zero, Nat.mod_self, Nat.add_zero]

/-- Between two multiples it is the upper one that is meant. -/
theorem roundUp_of_not_dvd {place alignment : Nat} (hpositive : 0 < alignment)
    (hbetween : ¬alignment ∣ place) :
    roundUp place alignment = alignment * (place / alignment + 1) := by
  have hsome : 0 < place % alignment :=
    Nat.pos_of_ne_zero fun hzero => hbetween (Nat.dvd_of_mod_eq_zero hzero)
  have hless : place % alignment < alignment := Nat.mod_lt place hpositive
  have hdivided : alignment * (place / alignment) + place % alignment = place :=
    Nat.div_add_mod place alignment
  rw [roundUp, Nat.mod_eq_of_lt (Nat.sub_lt hpositive hsome), Nat.mul_add, Nat.mul_one]
  omega

/-- Rounding up gives the least multiple that is not less than the place. -/
theorem isLeast_roundUp (place : Nat) {alignment : Nat} (hpositive : 0 < alignment) :
    IsLeast {multiple | place ≤ multiple ∧ alignment ∣ multiple} (roundUp place alignment) := by
  by_cases hmultiple : alignment ∣ place
  · rw [roundUp_of_dvd hmultiple]
    exact ⟨⟨Nat.le_refl place, hmultiple⟩, fun other hother => hother.1⟩
  · refine ⟨⟨le_roundUp place alignment, ?_⟩, ?_⟩
    · rw [roundUp_of_not_dvd hpositive hmultiple]
      exact Nat.dvd_mul_right _ _
    · rintro _ ⟨hle, factor, rfl⟩
      rw [roundUp_of_not_dvd hpositive hmultiple]
      have hlower : alignment * (place / alignment) ≤ place := Nat.mul_div_le place alignment
      have hne : place ≠ alignment * factor :=
        fun hsame => hmultiple (hsame ▸ Nat.dvd_mul_right _ _)
      have hfactor : place / alignment < factor :=
        Nat.lt_of_mul_lt_mul_left (a := alignment) (by omega)
      exact Nat.mul_le_mul_left alignment hfactor

structure Extent where
  field : DeclId
  start : Nat
  size : Nat

def Extent.stop (extent : Extent) : Nat :=
  extent.start + extent.size

def Placed.extent (placed : Placed) : Extent where
  field := placed.field
  start := placed.start.toNat
  size := placed.size.toNat

/-- A field that is not empty ends behind its first byte. -/
theorem Placed.start_lt_stop {placed : Placed} (hsome : placed.size ≠ 0) :
    placed.extent.start < placed.extent.stop := by
  rw [ne_eq, ← UInt32.toNat_inj, UInt32.toNat_zero] at hsome
  exact Nat.lt_add_of_pos_right (Nat.pos_of_ne_zero hsome)

def Slot.extent (slot : Slot) (next : Nat) : Extent where
  field := slot.field
  start := roundUp next slot.alignment.toNat
  size := slot.size.toNat

/-- The fields of a struct among all numbers, the first of which is tried from `next` on. -/
def exactLayout : Nat → List Slot → List Extent
  | _, [] => []
  | next, slot :: rest => slot.extent next :: exactLayout (slot.extent next).stop rest

/-- Fields stand one behind the other, each at the least multiple of its alignment that is not less
than the end of the one before it. -/
inductive StandsExactly : Nat → List Slot → List Extent → Prop
  | nil (next : Nat) : StandsExactly next [] []
  | cons {next : Nat} {slot : Slot} {slots : List Slot} {extent : Extent} {extents : List Extent}
      (hfield : extent.field = slot.field) (hsize : extent.size = slot.size.toNat)
      (hstart : IsLeast {multiple | next ≤ multiple ∧ slot.alignment.toNat ∣ multiple} extent.start)
      (hrest : StandsExactly extent.stop slots extents) :
      StandsExactly next (slot :: slots) (extent :: extents)

def lastStop (next : Nat) (extents : List Extent) : Nat :=
  extents.foldl (fun _ extent => extent.stop) next

theorem Slot.toNat_alignment_pos (slot : Slot) : 0 < slot.alignment.toNat :=
  UInt32.lt_iff_toNat_lt.mp slot.alignment_pos

/-- There is one such arrangement. -/
theorem standsExactly_iff {next : Nat} {slots : List Slot} {extents : List Extent} :
    StandsExactly next slots extents ↔ extents = exactLayout next slots := by
  constructor
  · intro hstands
    induction hstands with
    | nil next => rfl
    | @cons next slot slots extent extents hfield hsize hstart hrest ih =>
      have hextent : extent = slot.extent next := by
        have hsame := hstart.unique (isLeast_roundUp next slot.toNat_alignment_pos)
        cases extent
        simp_all [Slot.extent]
      rw [ih, exactLayout, ← hextent]
  · rintro rfl
    induction slots generalizing next with
    | nil => exact .nil next
    | cons slot rest ih =>
      exact .cons rfl rfl (isLeast_roundUp next slot.toNat_alignment_pos) ih

/-! ## Within the places -/

section Fits

variable {next : UInt32} {slot : Slot} {slots : List Slot}

theorem extent_place (hfits : (slot.extent next.toNat).stop < UInt32.size) :
    (slot.place next).extent = slot.extent next.toNat := by
  have hroom : roundUp next.toNat slot.alignment.toNat < UInt32.size :=
    Nat.lt_of_le_of_lt (Nat.le_add_right _ _) hfits
  simp [Placed.extent, Slot.place, Slot.extent, toNat_nextMultiple slot.alignment_pos hroom]

/-- A field that ends within the places is followed by the place behind it. -/
theorem toNat_placeAfter_of_fits {placed : Placed} (hfits : placed.extent.stop < UInt32.size) :
    (placeAfter placed.start placed.size).toNat = placed.extent.stop := by
  rw [toNat_placeAfter]
  exact Nat.min_eq_left (Nat.le_of_lt_succ hfits)

theorem toNat_nextPlace (hfits : (slot.extent next.toNat).stop < UInt32.size) :
    ((slot.place next).nextPlace false next).toNat = (slot.extent next.toNat).stop := by
  have hsame := extent_place hfits
  rw [← hsame] at hfits ⊢
  exact toNat_placeAfter_of_fits hfits

/-- As long as every field ends within the places, fields stand where they stand among all numbers.
-/
theorem map_extent_layout
    (hfits : ∀ extent ∈ exactLayout next.toNat slots, extent.stop < UInt32.size) :
    (layout false next slots).map Placed.extent = exactLayout next.toNat slots ∧
      (nextAfter false next slots).toNat = lastStop next.toNat (exactLayout next.toNat slots) := by
  induction slots generalizing next with
  | nil => exact ⟨rfl, rfl⟩
  | cons slot rest ih =>
    obtain ⟨hslot, hrest⟩ := List.forall_mem_cons.mp hfits
    rw [← toNat_nextPlace hslot] at hrest
    obtain ⟨hlayout, hlast⟩ := ih hrest
    rw [toNat_nextPlace hslot] at hlayout hlast
    exact ⟨by rw [layout, List.map_cons, extent_place hslot, hlayout, exactLayout], hlast⟩

theorem toNat_max (left right : UInt32) :
    (max left right).toNat = max left.toNat right.toNat := by
  have hmax : max left right = if left ≤ right then right else left := rfl
  rw [hmax]
  split
  · next hle =>
    exact (Nat.max_eq_right (UInt32.le_iff_toNat_le.mp hle)).symm
  · next hless =>
    exact (Nat.max_eq_left (Nat.le_of_not_le (mt UInt32.le_iff_toNat_le.mpr hless))).symm

/-- An aggregate that covers fields within the places covers their ends among all numbers. -/
theorem toNat_foldl_placeAfter {fields : List Placed} (size : UInt32)
    (hfits : ∀ placed ∈ fields, placed.extent.stop < UInt32.size) :
    (fields.foldl (fun size placed => max size (placeAfter placed.start placed.size)) size).toNat =
      ((fields.map Placed.extent).map Extent.stop).foldl max size.toNat := by
  induction fields generalizing size with
  | nil => rfl
  | cons placed rest ih =>
    obtain ⟨hplaced, hrest⟩ := List.forall_mem_cons.mp hfits
    rw [List.foldl_cons, ih _ hrest, toNat_max, toNat_placeAfter_of_fits hplaced]
    rfl

end Fits

namespace Arena

variable {arena : Arena} {facts : TypeFacts} {owner : AggregateId} {fields : List DeclId}

/-- Fields of an aggregate have come to stand at some bytes, and nothing else has changed. -/
structure StandsAt (owner : AggregateId) (aggregate : Aggregate) (extents : List Extent)
    (before after : Arena) : Prop where
  /-- Each of the variables is a field with its bytes. -/
  get_field : ∀ extent ∈ extents, ∃ declaration state offset size,
    before.get extent.field = .ok declaration ∧ declaration.entity = .var state ∧
    after.get extent.field = .ok
      { declaration with
        storage := insert .field declaration.storage
        owner := .aggregate owner
        entity := .var { state with offset, size } } ∧
    offset.toNat = extent.start ∧ size.toNat = extent.size
  /-- The aggregate lists them behind its earlier fields and covers them. -/
  aggregate_owner : ∃ size,
    after.aggregate owner = .ok
      { aggregate with size, fields := aggregate.fields ++ extents.map Extent.field } ∧
    size.toNat = (extents.map Extent.stop).foldl max aggregate.size.toNat
  get_other : ∀ id, (∀ extent ∈ extents, extent.field ≠ id) → after.get id = before.get id
  aggregate_other : ∀ other, other ≠ owner → after.aggregate other = before.aggregate other
  nextSequence_eq : after.nextSequence = before.nextSequence

theorem nextSequence_foldl_put {placed : List Placed} :
    (placed.foldl (put owner) arena).nextSequence = arena.nextSequence := by
  induction placed generalizing arena with
  | nil => rfl
  | cons first rest ih => exact ih

/-- Different fields that end within the places stand at their bytes once they are put there. -/
theorem standsAt_foldl_put {aggregate : Aggregate}
    (howner : arena.aggregate owner = .ok aggregate) {places : List Placed}
    (hslots : ∀ placed ∈ places, arena.IsVariable placed.field)
    (hdistinct : (places.map (·.field)).Nodup)
    (hfits : ∀ placed ∈ places, placed.extent.stop < UInt32.size) :
    StandsAt owner aggregate (places.map Placed.extent) arena (places.foldl (put owner) arena) := by
  constructor
  case get_field =>
    intro extent hextent
    obtain ⟨placed, hplaced, rfl⟩ := List.mem_map.mp hextent
    obtain ⟨declaration, hget, hvariable⟩ := hslots placed hplaced
    obtain ⟨state, hstate⟩ := Option.isSome_iff_exists.mp hvariable
    have hentity := Declaration.entity_of_asVariable? hstate
    refine ⟨declaration, state, placed.start, placed.size, hget, hentity, ?_, rfl, rfl⟩
    have hput : (places.foldl (put owner) arena).get placed.field =
        (arena.get placed.field).map (·.placedAt owner placed) :=
      get_foldl_put hdistinct hplaced
    simp only [hget, ok_map, Declaration.placedAt, Declaration.mapVariable, hentity] at hput
    exact hput
  case aggregate_owner =>
    refine ⟨_, ?_, toNat_foldl_placeAfter aggregate.size hfits⟩
    rw [aggregate_foldl_put places howner, Aggregate.foldl_withField, List.map_map]
    rfl
  case get_other =>
    intro id hother
    apply get_foldl_put_of_notMem
    intro placed hplaced
    exact hother placed.extent (List.mem_map_of_mem hplaced)
  case aggregate_other =>
    intro other hother
    exact aggregate_foldl_put_of_ne hother
  case nextSequence_eq => exact nextSequence_foldl_put

/-- The fields that are placed one after the other in a struct come to stand as they would among all
numbers, if they end within the places there. -/
theorem placeFields_standsExactly {aggregate : Aggregate}
    (howner : arena.aggregate owner = .ok aggregate)
    (hvariables : ∀ field ∈ fields, arena.IsVariable field) (hdistinct : fields.Nodup)
    (next : UInt32) {extents : List Extent}
    (hstands : StandsExactly next.toNat (arena.slots facts fields) extents)
    (hfits : ∀ extent ∈ extents, extent.stop < UInt32.size) :
    extents.map Extent.field = fields ∧
    ∃ starts last after,
      placeFields facts owner false arena next fields = .ok ((starts, last), after) ∧
      starts.map UInt32.toNat = extents.map Extent.start ∧
      last.toNat = lastStop next.toNat extents ∧ StandsAt owner aggregate extents arena after := by
  rw [standsExactly_iff] at hstands
  subst hstands
  obtain ⟨hplaces, hlast⟩ := map_extent_layout hfits
  have hfields := map_field_slots facts hvariables
  have hlisted : (layout false next (arena.slots facts fields)).map (·.field) = fields :=
    map_field_layout.trans hfields
  have hslots : ∀ slot ∈ arena.slots facts fields, arena.HasSlot facts slot :=
    fun _ => hasSlot_of_mem_slots
  have hrun := placeFields_eq_layout false next hslots (lt_of_aggregate howner)
  rw [hfields] at hrun
  rw [← hplaces] at hfits ⊢
  refine ⟨by rw [List.map_map]; exact hlisted, _, _, _, hrun, ?_, ?_, ?_⟩
  · rw [List.map_map, List.map_map]
    rfl
  · rw [hlast, hplaces]
  · apply standsAt_foldl_put howner
    · intro placed hplaced
      apply hvariables
      rw [← hlisted]
      exact List.mem_map_of_mem hplaced
    · rwa [hlisted]
    · exact List.forall_mem_map.mp hfits

/-- Types whose values are aligned to three, to eight, and, as asked, to zero. -/
def oddFacts : TypeFacts :=
  .ofRows [{ type := ⟨1⟩, size := 5, alignment := 3 }, { type := ⟨2⟩, size := 8, alignment := 8 },
    { type := ⟨3⟩, size := 2, alignment := 0 }]

/-- A struct of four bytes, and variables of these types, one of which asks for an alignment, and
one without a type. -/
def halfPlaced : Arena where
  declarations := #[.var ⟨11⟩ .synthetic (some ⟨1⟩), .var ⟨12⟩ .synthetic (some ⟨2⟩),
    .var ⟨13⟩ .synthetic (some ⟨3⟩), .var ⟨14⟩ .synthetic none,
    { Declaration.var ⟨15⟩ .synthetic (some ⟨2⟩) with entity := .var { alignment := some 10 } },
    .var ⟨16⟩ .synthetic (some ⟨3⟩)]
  aggregates := #[{ name := ⟨10⟩, span := .synthetic, kind := .struct, fields := [⟨5⟩], size := 4 }]

theorem placeFields_standsExactly_halfPlaced :
    let fields : List DeclId := [⟨4⟩, ⟨0⟩, ⟨3⟩, ⟨2⟩, ⟨1⟩]
    let extents := exactLayout 4 (halfPlaced.slots oddFacts fields)
    ∃ aggregate, (halfPlaced.aggregate ⟨0⟩ = .ok aggregate ∧
      (∀ field ∈ fields, halfPlaced.IsVariable field) ∧ fields.Nodup ∧
      StandsExactly (4 : UInt32).toNat (halfPlaced.slots oddFacts fields) extents ∧
      ∀ extent ∈ extents, extent.stop < UInt32.size) ∧
    extents.map Extent.start = [10, 18, 23, 23, 32] ∧ extents.map Extent.field = fields ∧
    ∃ starts last after,
      placeFields oddFacts ⟨0⟩ false halfPlaced 4 fields = .ok ((starts, last), after) ∧
      starts.map UInt32.toNat = extents.map Extent.start ∧
      last.toNat = lastStop 4 extents ∧ StandsAt ⟨0⟩ aggregate extents halfPlaced after := by
  intro fields extents
  have hvariables : ∀ field ∈ fields, halfPlaced.IsVariable field := by
    simp [fields, IsVariable, halfPlaced, get, Declaration.var, Declaration.asVariable?]
  have hstands : StandsExactly (4 : UInt32).toNat (halfPlaced.slots oddFacts fields) extents :=
    standsExactly_iff.mpr rfl
  have hfits : ∀ extent ∈ extents, extent.stop < UInt32.size := by decide
  exact ⟨_, ⟨rfl, hvariables, by decide, hstands, hfits⟩, by decide,
    placeFields_standsExactly rfl hvariables (by decide) 4 hstands hfits⟩

end Arena

end Declarations
