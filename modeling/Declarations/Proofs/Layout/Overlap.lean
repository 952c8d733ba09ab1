import Declarations.Proofs.Arena.Change
import Declarations.Proofs.Layout.Places
import Mathlib.Data.List.FinRange

/-!
# Marks of overlapping fields

The fields of an aggregate are compared two by two, and marks are set while the comparison goes on.
Marks say nothing about places, owners or types, so every pair is judged as it would have been at
the start.  The warnings are therefore those of the pairs that share a byte and hold pointers, in
their order, and a second run finds the same and has nothing left to mark.
-/

namespace Declarations

/-! ## Pairs of a list -/

/-- Every member of a list with each later one. -/
def earlierLater {α : Type} : List α → List (α × α)
  | [] => []
  | first :: rest => rest.map (first, ·) ++ earlierLater rest

theorem earlierLater_map {α β : Type} (change : α → β) (members : List α) :
    earlierLater (members.map change) = (earlierLater members).map (Prod.map change change) := by
  induction members with
  | nil => rfl
  | cons first rest ih => simp [earlierLater, ih, Function.comp_def]

theorem mem_of_mem_earlierLater {α : Type} {members : List α} {pair : α × α}
    (hpair : pair ∈ earlierLater members) : pair.1 ∈ members ∧ pair.2 ∈ members := by
  induction members with
  | nil => contradiction
  | cons first rest ih =>
    rcases List.mem_append.mp hpair with hfirst | hrest
    · obtain ⟨second, hsecond, rfl⟩ := List.mem_map.mp hfirst
      exact ⟨List.mem_cons_self, List.mem_cons_of_mem _ hsecond⟩
    · obtain ⟨hleft, hright⟩ := ih hrest
      exact ⟨List.mem_cons_of_mem _ hleft, List.mem_cons_of_mem _ hright⟩

section Increasing

variable {α : Type} [LinearOrder α] {members : List α}

/-- In an increasing list the later of two members is the larger one. -/
theorem mem_earlierLater_iff (hincreasing : members.Pairwise (· < ·)) {first second : α} :
    (first, second) ∈ earlierLater members ↔
      first ∈ members ∧ second ∈ members ∧ first < second := by
  induction members with
  | nil => simp [earlierLater]
  | cons head rest ih =>
    obtain ⟨hhead, hrest⟩ := List.pairwise_cons.mp hincreasing
    simp only [earlierLater, List.mem_append, List.mem_map, Prod.mk.injEq, ih hrest, List.mem_cons]
    constructor
    · rintro (⟨other, hother, rfl, rfl⟩ | ⟨hfirst, hsecond, hless⟩)
      · exact ⟨.inl rfl, .inr hother, hhead other hother⟩
      · exact ⟨.inr hfirst, .inr hsecond, hless⟩
    · rintro ⟨rfl | hfirst, rfl | hsecond, hless⟩
      · exact absurd hless (lt_irrefl _)
      · exact .inl ⟨second, hsecond, rfl, rfl⟩
      · exact absurd (hhead first hfirst) (lt_asymm hless)
      · exact .inr ⟨hfirst, hsecond, hless⟩

/-- The pairs of an increasing list come in lexicographic order. -/
theorem pairwise_earlierLater (hincreasing : members.Pairwise (· < ·)) :
    (earlierLater members).Pairwise (Prod.Lex (· < ·) (· < ·)) := by
  induction members with
  | nil => exact .nil
  | cons head rest ih =>
    obtain ⟨hhead, hrest⟩ := List.pairwise_cons.mp hincreasing
    rw [earlierLater, List.pairwise_append, List.pairwise_map]
    refine ⟨hrest.imp fun hless => .right head hless, ih hrest, ?_⟩
    intro left hleft right hright
    obtain ⟨second, -, rfl⟩ := List.mem_map.mp hleft
    exact .left _ _ (hhead right.1 (mem_of_mem_earlierLater hright).1)

end Increasing

/-! ## Bytes of fields -/

def Variable.Covers (state : Variable) (byte : Nat) : Prop :=
  state.offset.toNat ≤ byte ∧ byte < state.offset.toNat + state.size.toNat

/-- Two fields that are not empty and each start before the other one ends have a byte in common. -/
theorem Variable.sharesBytes_iff {left right : Variable} :
    left.sharesBytes right = true ↔ ∃ byte, left.Covers byte ∧ right.Covers byte := by
  simp only [sharesBytes, Bool.and_eq_true, decide_eq_true_eq, ← UInt32.toNat_inj, ne_eq,
    UInt32.toNat_zero, Covers]
  constructor
  · intro hshares
    exact ⟨max left.offset.toNat right.offset.toNat, by omega⟩
  · rintro ⟨byte, hleft, hright⟩
    omega

namespace Declaration

variable {declaration : Declaration} {change : Variable → Variable}

theorem owner_mapVariable : (declaration.mapVariable change).owner = declaration.owner := by
  cases hentity : declaration.entity <;> simp [mapVariable, hentity]

theorem type_mapVariable : (declaration.mapVariable change).type = declaration.type := by
  cases hentity : declaration.entity <;> simp [mapVariable, hentity]

theorem mapVariable_mapVariable {later : Variable → Variable} :
    (declaration.mapVariable change).mapVariable later =
      declaration.mapVariable fun state => later (change state) := by
  cases hentity : declaration.entity <;> simp [mapVariable, hentity]

theorem sameAggregate_iff {left right : Declaration} : left.sameAggregate right = true ↔
    ∃ owner, left.memberOf? = some owner ∧ right.memberOf? = some owner := by
  simp only [sameAggregate, Bool.and_eq_true, Option.isSome_iff_exists, decide_eq_true_eq]
  constructor
  · rintro ⟨⟨owner, hleft⟩, hsame⟩
    exact ⟨owner, hleft, hsame ▸ hleft⟩
  · rintro ⟨owner, hleft, hright⟩
    exact ⟨⟨owner, hleft⟩, hleft.trans hright.symm⟩

theorem overlaps_iff {left right : Declaration} : left.overlaps right = true ↔
    ∃ owner state other byte,
      (left.memberOf? = some owner ∧ left.asVariable? = some state ∧ state.Covers byte) ∧
      right.memberOf? = some owner ∧ right.asVariable? = some other ∧ other.Covers byte := by
  rw [overlaps, Bool.and_eq_true, sameAggregate_iff]
  constructor
  · rintro ⟨⟨owner, hleft, hright⟩, hshares⟩
    split at hshares
    · next state other hstate hother =>
      obtain ⟨byte, hfirst, hsecond⟩ := Variable.sharesBytes_iff.mp hshares
      exact ⟨owner, state, other, byte, ⟨hleft, hstate, hfirst⟩, hright, hother, hsecond⟩
    · contradiction
  · rintro ⟨owner, state, other, byte, ⟨hleft, hstate, hfirst⟩, hright, hother, hsecond⟩
    refine ⟨⟨owner, hleft, hright⟩, ?_⟩
    rw [hstate, hother]
    exact Variable.sharesBytes_iff.mpr ⟨byte, hfirst, hsecond⟩

def addFlags (declaration : Declaration) (flags : FlagSet VariableFlag) : Declaration :=
  declaration.mapVariable fun state => { state with flags := state.flags ∪ flags }

theorem addFlags_empty : declaration.addFlags ∅ = declaration := by
  have hnone : ∀ flags : FlagSet VariableFlag, flags ∪ ∅ = flags := fun flags => by ext; simp
  cases hentity : declaration.entity <;> simp [addFlags, mapVariable, hentity, hnone]
  rw [← hentity]

theorem memberOf?_addFlags {flags : FlagSet VariableFlag} :
    (declaration.addFlags flags).memberOf? = declaration.memberOf? := by
  simp only [memberOf?, addFlags, owner_mapVariable]

theorem addFlags_addFlags {first second : FlagSet VariableFlag} :
    (declaration.addFlags first).addFlags second = declaration.addFlags (first ∪ second) := by
  have hassoc : ∀ flags : FlagSet VariableFlag,
      flags ∪ first ∪ second = flags ∪ (first ∪ second) := fun flags => by ext; simp [or_assoc]
  simp only [addFlags, mapVariable_mapVariable, hassoc]

end Declaration

namespace Arena

def HasByte (arena : Arena) (owner : AggregateId) (field : DeclId) (byte : Nat) : Prop :=
  ∃ declaration state, arena.get field = .ok declaration ∧ declaration.memberOf? = some owner ∧
    declaration.asVariable? = some state ∧ state.Covers byte

/-- Two different fields of one aggregate have a byte in common. -/
def Overlap (arena : Arena) (first second : DeclId) : Prop :=
  first ≠ second ∧ ∃ owner byte, arena.HasByte owner first byte ∧ arena.HasByte owner second byte

def HoldsPointers (arena : Arena) (facts : TypeFacts) (id : DeclId) : Prop :=
  ∃ declaration type, arena.get id = .ok declaration ∧ declaration.type = some type ∧
    facts.hasPointers type = true

/-- Two fields overlap, and one of them holds pointers that the other one could forge. -/
def UnsafeOverlap (arena : Arena) (facts : TypeFacts) (first second : DeclId) : Prop :=
  arena.Overlap first second ∧
    (arena.HoldsPointers facts first ∨ arena.HoldsPointers facts second)

variable {arena before middle after : Arena} {facts : TypeFacts} {owner : AggregateId}
  {id first second : DeclId}

/-- The question whether two fields overlap is answered by whether they do. -/
theorem fieldsOverlap_eq_true_iff :
    arena.fieldsOverlap first second = .ok true ↔ arena.Overlap first second := by
  constructor
  · intro hanswer
    rw [fieldsOverlap] at hanswer
    split at hanswer
    · cases hanswer
    · next hdifferent =>
      obtain ⟨left, hleft, hrest⟩ := bind_eq_ok_iff.mp hanswer
      obtain ⟨right, hright, hoverlaps⟩ := bind_eq_ok_iff.mp hrest
      rw [pure_eq_ok, Except.ok.injEq] at hoverlaps
      obtain ⟨owner, state, other, byte, hfirst, hsecond⟩ := Declaration.overlaps_iff.mp hoverlaps
      exact ⟨hdifferent, owner, byte, ⟨left, state, hleft, hfirst⟩,
        ⟨right, other, hright, hsecond⟩⟩
  · rintro ⟨hdifferent, owner, byte, ⟨left, state, hleft, hfirst⟩, ⟨right, other, hright, hsecond⟩⟩
    have hoverlaps : left.overlaps right = true :=
      Declaration.overlaps_iff.mpr ⟨owner, state, other, byte, hfirst, hsecond⟩
    simp [fieldsOverlap, hdifferent, hleft, hright, hoverlaps]

instance (arena : Arena) (first second : DeclId) : Decidable (arena.Overlap first second) :=
  decidable_of_iff _ fieldsOverlap_eq_true_iff

/-- Whether two fields overlap can be said when both can be read. -/
theorem fieldsOverlap_eq (hfirst : first.number < arena.size)
    (hsecond : second.number < arena.size) :
    arena.fieldsOverlap first second = .ok (decide (arena.Overlap first second)) := by
  obtain ⟨left, hleft⟩ := exists_get hfirst
  obtain ⟨right, hright⟩ := exists_get hsecond
  obtain ⟨answer, hanswer⟩ : ∃ answer, arena.fieldsOverlap first second = .ok answer := by
    rw [fieldsOverlap]
    split
    · exact ⟨_, rfl⟩
    · exact ⟨_, by rw [hleft, hright]; rfl⟩
  rw [hanswer, Except.ok.injEq, Bool.eq_iff_iff, decide_eq_true_eq, ← fieldsOverlap_eq_true_iff,
    hanswer, Except.ok.injEq]

theorem holdsPointers_iff {declaration : Declaration} (hget : arena.get id = .ok declaration) :
    declaration.holdsPointers facts = true ↔ arena.HoldsPointers facts id := by
  cases htype : declaration.type <;> simp [Declaration.holdsPointers, HoldsPointers, hget, htype]

instance (arena : Arena) (facts : TypeFacts) (id : DeclId) :
    Decidable (arena.HoldsPointers facts id) :=
  match hget : arena.get id with
  | .ok _ => decidable_of_iff _ (holdsPointers_iff hget)
  | .error _ => isFalse fun ⟨_, _, hfound, _⟩ => by rw [hget] at hfound; contradiction

instance (arena : Arena) (facts : TypeFacts) (first second : DeclId) :
    Decidable (arena.UnsafeOverlap facts first second) :=
  inferInstanceAs (Decidable (_ ∧ _))

/-! ## Marks -/

def Earns (arena : Arena) (facts : TypeFacts) (pairs : List (DeclId × DeclId)) (id : DeclId)
    (flag : VariableFlag) : Prop :=
  ∃ first second, (first, second) ∈ pairs ∧ (id = first ∨ id = second) ∧
    (flag = .overlapped ∧ arena.Overlap first second ∨
      flag = .overlapUnsafe ∧ arena.UnsafeOverlap facts first second)

/-- Variables have got the flags that they earn by some pairs, and nothing else has changed. -/
structure FlagsPairs (facts : TypeFacts) (pairs : List (DeclId × DeclId)) (before after : Arena) :
    Prop where
  size_eq : after.size = before.size
  aggregates_eq : after.aggregates = before.aggregates
  nextSequence_eq : after.nextSequence = before.nextSequence
  get : ∀ id declaration, before.get id = .ok declaration → ∃ flags,
    after.get id = .ok (declaration.addFlags flags) ∧
      ∀ flag, flag ∈ flags ↔ before.Earns facts pairs id flag

namespace FlagsPairs

variable {pairs others : List (DeclId × DeclId)}

theorem exists_get (hflags : FlagsPairs facts pairs before after) {declaration : Declaration}
    (hget : after.get id = .ok declaration) : ∃ earlier flags,
      before.get id = .ok earlier ∧ declaration = earlier.addFlags flags := by
  have hid : id.number < before.size := hflags.size_eq ▸ lt_of_get hget
  obtain ⟨earlier, hearlier⟩ := Arena.exists_get hid
  obtain ⟨flags, hafter, -⟩ := hflags.get id earlier hearlier
  exact ⟨earlier, flags, hearlier, Except.ok.inj (hget.symm.trans hafter)⟩

theorem hasByte_iff (hflags : FlagsPairs facts pairs before after) {byte : Nat} :
    after.HasByte owner id byte ↔ before.HasByte owner id byte := by
  constructor
  · rintro ⟨declaration, state, hget, howner, hstate, hcovers⟩
    obtain ⟨earlier, flags, hearlier, rfl⟩ := hflags.exists_get hget
    rw [Declaration.memberOf?_addFlags] at howner
    rw [Declaration.addFlags, Declaration.asVariable?_mapVariable, Option.map_eq_some_iff] at hstate
    obtain ⟨old, hold, rfl⟩ := hstate
    exact ⟨earlier, old, hearlier, howner, hold, hcovers⟩
  · rintro ⟨declaration, state, hget, howner, hstate, hcovers⟩
    obtain ⟨flags, hafter, -⟩ := hflags.get id declaration hget
    refine ⟨_, { state with flags := state.flags ∪ flags }, hafter, ?_, ?_, hcovers⟩
    · rw [Declaration.memberOf?_addFlags, howner]
    · rw [Declaration.addFlags, Declaration.asVariable?_mapVariable, hstate, Option.map_some]

/-- Marks have no say in which fields overlap. -/
theorem overlap_iff (hflags : FlagsPairs facts pairs before after) :
    after.Overlap first second ↔ before.Overlap first second := by
  simp only [Overlap, hflags.hasByte_iff]

theorem holdsPointers_iff (hflags : FlagsPairs facts pairs before after) :
    after.HoldsPointers facts id ↔ before.HoldsPointers facts id := by
  constructor
  · rintro ⟨declaration, type, hget, htype, hpointers⟩
    obtain ⟨earlier, flags, hearlier, rfl⟩ := hflags.exists_get hget
    rw [Declaration.addFlags, Declaration.type_mapVariable] at htype
    exact ⟨earlier, type, hearlier, htype, hpointers⟩
  · rintro ⟨declaration, type, hget, htype, hpointers⟩
    obtain ⟨flags, hafter, -⟩ := hflags.get id declaration hget
    refine ⟨_, type, hafter, ?_, hpointers⟩
    rw [Declaration.addFlags, Declaration.type_mapVariable, htype]

theorem unsafeOverlap_iff (hflags : FlagsPairs facts pairs before after) :
    after.UnsafeOverlap facts first second ↔ before.UnsafeOverlap facts first second := by
  simp only [UnsafeOverlap, hflags.overlap_iff, hflags.holdsPointers_iff]

theorem earns_iff (hflags : FlagsPairs facts pairs before after) {flag : VariableFlag} :
    after.Earns facts others id flag ↔ before.Earns facts others id flag := by
  simp only [Earns, hflags.overlap_iff, hflags.unsafeOverlap_iff]

theorem nil : FlagsPairs facts [] arena arena where
  size_eq := rfl
  aggregates_eq := rfl
  nextSequence_eq := rfl
  get id declaration hget := by
    refine ⟨∅, by rw [hget, Declaration.addFlags_empty], fun flag => ?_⟩
    simp [Earns]

theorem append (hfirst : FlagsPairs facts pairs before middle)
    (hsecond : FlagsPairs facts others middle after) :
    FlagsPairs facts (pairs ++ others) before after where
  size_eq := hsecond.size_eq.trans hfirst.size_eq
  aggregates_eq := hsecond.aggregates_eq.trans hfirst.aggregates_eq
  nextSequence_eq := hsecond.nextSequence_eq.trans hfirst.nextSequence_eq
  get id declaration hget := by
    obtain ⟨flags, hmiddle, hflags⟩ := hfirst.get id declaration hget
    obtain ⟨later, hafter, hlater⟩ := hsecond.get id _ hmiddle
    refine ⟨flags ∪ later, by rw [hafter, Declaration.addFlags_addFlags], fun flag => ?_⟩
    rw [FlagSet.mem_union, hflags, hlater, hfirst.earns_iff]
    simp only [Earns, List.mem_append, or_and_right, exists_or]

/-- Variables that have their flags do not change when they get them again. -/
theorem eq_of_again (hfirst : FlagsPairs facts pairs before middle)
    (hsecond : FlagsPairs facts pairs middle after) : after = middle := by
  have hget : ∀ id, after.get id = middle.get id := by
    intro id
    by_cases hid : id.number < before.size
    · obtain ⟨declaration, hbefore⟩ := Arena.exists_get hid
      obtain ⟨flags, hmiddle, hflags⟩ := hfirst.get id declaration hbefore
      obtain ⟨later, hafter, hlater⟩ := hsecond.get id _ hmiddle
      have hsame : flags ∪ later = flags := by
        ext flag
        rw [FlagSet.mem_union, hlater, hfirst.earns_iff, hflags, or_self]
      rw [hafter, hmiddle, Declaration.addFlags_addFlags, hsame]
    · have hmiddle : middle.size ≤ id.number := hfirst.size_eq ▸ Nat.le_of_not_lt hid
      rw [get_of_size_le hmiddle, get_of_size_le (hsecond.size_eq ▸ hmiddle)]
  exact eq_of_get hget hsecond.aggregates_eq hsecond.nextSequence_eq

end FlagsPairs

/-! ## Comparing two by two -/

def overlapWarnings (arena : Arena) (facts : TypeFacts) (owner : AggregateId)
    (pairs : List (DeclId × DeclId)) : List DeclError :=
  (pairs.filter fun pair => arena.UnsafeOverlap facts pair.1 pair.2).map fun pair =>
    .unsafeFieldOverlap owner pair.1 pair.2

theorem FlagsPairs.overlapWarnings_eq {pairs : List (DeclId × DeclId)}
    (hflags : FlagsPairs facts pairs before after) (others : List (DeclId × DeclId)) :
    after.overlapWarnings facts owner others = before.overlapWarnings facts owner others := by
  simp only [overlapWarnings, hflags.unsafeOverlap_iff]

/-- Both fields of a pair get the same flags. -/
theorem get_flagBoth {flags : FlagSet VariableFlag}
    (hfirst : arena.modify first (·.addFlags flags) = .ok middle)
    (hsecond : middle.modify second (·.addFlags flags) = .ok after) (hdifferent : first ≠ second)
    {declaration : Declaration} (hget : arena.get id = .ok declaration) :
    after.get id =
      .ok (declaration.addFlags (if id = first ∨ id = second then flags else ∅)) := by
  rw [get_of_modify hsecond, get_of_modify hfirst, hget]
  by_cases hisFirst : id = first
  · simp [hisFirst, hdifferent]
  · by_cases hisSecond : id = second
    · simp [hisSecond, hdifferent.symm]
    · simp [hisFirst, hisSecond, Declaration.addFlags_empty]

theorem earns_singleton {flag : VariableFlag} : arena.Earns facts [(first, second)] id flag ↔
    (id = first ∨ id = second) ∧ (flag = .overlapped ∧ arena.Overlap first second ∨
      flag = .overlapUnsafe ∧ arena.UnsafeOverlap facts first second) := by
  simp only [Earns, List.mem_singleton, Prod.mk.injEq]
  constructor
  · rintro ⟨_, _, ⟨rfl, rfl⟩, hearned⟩
    exact hearned
  · intro hearned
    exact ⟨first, second, ⟨rfl, rfl⟩, hearned⟩

/-- A pair that does not overlap changes nothing. -/
theorem flagsPairs_of_not_overlap (hapart : ¬arena.Overlap first second) :
    FlagsPairs facts [(first, second)] arena arena where
  size_eq := rfl
  aggregates_eq := rfl
  nextSequence_eq := rfl
  get id declaration hget := by
    refine ⟨∅, by rw [hget, Declaration.addFlags_empty], fun flag => ?_⟩
    simp [earns_singleton, UnsafeOverlap, hapart]

/-- The flags that both fields of an overlapping pair get. -/
theorem flagsPairs_of_overlap (hoverlap : arena.Overlap first second)
    {flags : FlagSet VariableFlag}
    (hflags : ∀ flag, flag ∈ flags ↔ flag = .overlapped ∨
      flag = .overlapUnsafe ∧ arena.UnsafeOverlap facts first second)
    (hfirst : arena.modify first (·.addFlags flags) = .ok middle)
    (hsecond : middle.modify second (·.addFlags flags) = .ok after) :
    FlagsPairs facts [(first, second)] arena after where
  size_eq := (size_of_modify hsecond).trans (size_of_modify hfirst)
  aggregates_eq := (aggregates_of_modify hsecond).trans (aggregates_of_modify hfirst)
  nextSequence_eq := (nextSequence_of_modify hsecond).trans (nextSequence_of_modify hfirst)
  get id declaration hget := by
    refine ⟨_, get_flagBoth hfirst hsecond hoverlap.1 hget, fun flag => ?_⟩
    rw [earns_singleton]
    split
    · next hmember => simp [hmember, hflags, hoverlap]
    · next hother => simp [hother]

/-- One pair is judged and marked. -/
theorem exists_markPair (facts : TypeFacts) (owner : AggregateId)
    (hfirst : first.number < arena.size) (hsecond : second.number < arena.size) :
    ∃ after, arena.markPair facts owner first second =
      .ok ((if arena.UnsafeOverlap facts first second then
        some (.unsafeFieldOverlap owner first second) else none), after) ∧
      FlagsPairs facts [(first, second)] arena after := by
  rw [markPair, fieldsOverlap_eq hfirst hsecond, ok_bind]
  by_cases hoverlap : arena.Overlap first second
  · obtain ⟨left, hleft⟩ := exists_get hfirst
    obtain ⟨right, hright⟩ := exists_get hsecond
    have hunsafe : left.holdsPointers facts = true ∨ right.holdsPointers facts = true ↔
        arena.UnsafeOverlap facts first second := by
      rw [holdsPointers_iff hleft, holdsPointers_iff hright, UnsafeOverlap, and_iff_right hoverlap]
    obtain ⟨flags, hchosen⟩ : ∃ flags : FlagSet VariableFlag, flags =
        if arena.UnsafeOverlap facts first second then {.overlapped, .overlapUnsafe}
        else {.overlapped} := ⟨_, rfl⟩
    have hflags : ∀ flag, flag ∈ flags ↔ flag = .overlapped ∨
        flag = .overlapUnsafe ∧ arena.UnsafeOverlap facts first second := by
      intro flag
      by_cases hpair : arena.UnsafeOverlap facts first second <;> simp [hchosen, hpair]
    obtain ⟨middle, hmiddle⟩ := exists_modify (·.addFlags flags) hfirst
    have hroom : second.number < middle.size := size_of_modify hmiddle ▸ hsecond
    obtain ⟨after, hafter⟩ := exists_modify (·.addFlags flags) hroom
    refine ⟨after, ?_, flagsPairs_of_overlap hoverlap hflags hmiddle hafter⟩
    have hmarkFirst : arena.modifyVariable first
        (fun state => { state with flags := state.flags ∪ flags }) = .ok middle := hmiddle
    have hmarkSecond : middle.modifyVariable second
        (fun state => { state with flags := state.flags ∪ flags }) = .ok after := hafter
    simp [hoverlap, hleft, hright, hunsafe, ← hchosen, hmarkFirst, hmarkSecond]
  · have hsafe : ¬arena.UnsafeOverlap facts first second := fun hunsafe => hoverlap hunsafe.1
    refine ⟨arena, ?_, flagsPairs_of_not_overlap hoverlap⟩
    rw [decide_eq_false hoverlap, if_neg hsafe]
    rfl

/-- A field is judged against each of the later ones. -/
theorem exists_markWithLater (facts : TypeFacts) (owner : AggregateId) {rest : List DeclId}
    (hfirst : first.number < arena.size) (hrest : ∀ field ∈ rest, field.number < arena.size) :
    ∃ after, markWithLater facts owner first arena rest =
      .ok (arena.overlapWarnings facts owner (rest.map (first, ·)), after) ∧
      FlagsPairs facts (rest.map (first, ·)) arena after := by
  induction rest generalizing arena with
  | nil => exact ⟨arena, rfl, .nil⟩
  | cons second rest ih =>
    obtain ⟨hsecond, hothers⟩ := List.forall_mem_cons.mp hrest
    obtain ⟨middle, hpair, hmiddle⟩ := exists_markPair facts owner hfirst hsecond
    rw [← hmiddle.size_eq] at hfirst hothers
    obtain ⟨after, hrun, hafter⟩ := ih hfirst hothers
    refine ⟨after, ?_, hmiddle.append hafter⟩
    rw [hmiddle.overlapWarnings_eq] at hrun
    simp only [markWithLater, hpair, ok_bind, hrun, pure_eq_ok]
    by_cases hunsafe : arena.UnsafeOverlap facts first second <;> simp [overlapWarnings, hunsafe]

/-- Every field is judged against each later one. -/
theorem exists_markPairs (facts : TypeFacts) (owner : AggregateId) {fields : List DeclId}
    (hfields : ∀ field ∈ fields, field.number < arena.size) :
    ∃ after, markPairs facts owner arena fields =
      .ok (arena.overlapWarnings facts owner (earlierLater fields), after) ∧
      FlagsPairs facts (earlierLater fields) arena after := by
  induction fields generalizing arena with
  | nil => exact ⟨arena, rfl, .nil⟩
  | cons first rest ih =>
    obtain ⟨hfirst, hrest⟩ := List.forall_mem_cons.mp hfields
    obtain ⟨middle, hwith, hmiddle⟩ := exists_markWithLater facts owner hfirst hrest
    rw [← hmiddle.size_eq] at hrest
    obtain ⟨after, hrun, hafter⟩ := ih hrest
    refine ⟨after, ?_, hmiddle.append hafter⟩
    rw [hmiddle.overlapWarnings_eq] at hrun
    simp only [markPairs, hwith, ok_bind, hrun, pure_eq_ok]
    simp [overlapWarnings, earlierLater]

theorem FlagsPairs.aggregate_eq {pairs : List (DeclId × DeclId)}
    (hflags : FlagsPairs facts pairs before after) (owner : AggregateId) :
    after.aggregate owner = before.aggregate owner := by
  rw [Arena.aggregate, hflags.aggregates_eq, Arena.aggregate]

/-! ## Exactly the overlapping fields -/

/-- The variable is one of two fields, at different positions of a list, that are related. -/
def InPair (related : DeclId → DeclId → Prop) (fields : List DeclId) (id : DeclId) : Prop :=
  ∃ first second : Fin fields.length, first < second ∧ related fields[first] fields[second] ∧
    (id = fields[first] ∨ id = fields[second])

/-- What marking the overlapping fields of an aggregate answers, and what it does. -/
structure MarksExactly (facts : TypeFacts) (owner : AggregateId) (fields : List DeclId)
    (before : Arena) (warnings : List DeclError) (after : Arena) : Prop where
  /-- There is one warning for each pair of positions whose fields overlap unsafely, in
  lexicographic order. -/
  warnings_eq : ∃ positions : List (Fin fields.length × Fin fields.length),
    positions.Pairwise (Prod.Lex (· < ·) (· < ·)) ∧
    (∀ first second, (first, second) ∈ positions ↔
      first < second ∧ before.UnsafeOverlap facts fields[first] fields[second]) ∧
    warnings = positions.map fun (first, second) =>
      .unsafeFieldOverlap owner fields[first] fields[second]
  /-- A variable gets the flags for the pairs that it is in, and nothing else about it changes. -/
  get : ∀ id declaration, before.get id = .ok declaration → ∃ flags,
    after.get id = .ok (declaration.addFlags flags) ∧
    ∀ flag, flag ∈ flags ↔ flag = .overlapped ∧ InPair before.Overlap fields id ∨
      flag = .overlapUnsafe ∧ InPair (before.UnsafeOverlap facts) fields id
  size_eq : after.size = before.size
  aggregates_eq : after.aggregates = before.aggregates
  nextSequence_eq : after.nextSequence = before.nextSequence
  /-- A second run finds the same and has nothing left to mark. -/
  again : after.markOverlaps facts owner = .ok (warnings, after)

/-- The pairs of a list are those of its positions. -/
theorem earlierLater_eq_map_positions (fields : List DeclId) : earlierLater fields =
    (earlierLater (List.finRange fields.length)).map fun (first, second) =>
      (fields[first], fields[second]) := by
  conv_lhs => rw [← List.map_get_finRange fields, earlierLater_map]
  rfl

theorem mem_earlierLater_positions_iff {bound : Nat} {earlier later : Fin bound} :
    (earlier, later) ∈ earlierLater (List.finRange bound) ↔ earlier < later := by
  simp [mem_earlierLater_iff (List.pairwise_lt_finRange bound)]

theorem exists_mem_earlierLater_iff {fields : List DeclId} {related : DeclId → DeclId → Prop} :
    (∃ first second, (first, second) ∈ earlierLater fields ∧ (id = first ∨ id = second) ∧
      related first second) ↔ InPair related fields id := by
  rw [earlierLater_eq_map_positions]
  simp only [List.mem_map, Prod.exists, mem_earlierLater_positions_iff, Prod.mk.injEq, InPair]
  constructor
  · rintro ⟨_, _, ⟨earlier, later, hless, rfl, rfl⟩, hid, hrelated⟩
    exact ⟨earlier, later, hless, hrelated, hid⟩
  · rintro ⟨earlier, later, hless, hrelated, hid⟩
    exact ⟨_, _, ⟨earlier, later, hless, rfl, rfl⟩, hid, hrelated⟩

theorem earns_iff_inPair {fields : List DeclId} {flag : VariableFlag} :
    arena.Earns facts (earlierLater fields) id flag ↔
      flag = .overlapped ∧ InPair arena.Overlap fields id ∨
        flag = .overlapUnsafe ∧ InPair (arena.UnsafeOverlap facts) fields id := by
  constructor
  · rintro ⟨first, second, hpair, hid, ⟨rfl, hoverlap⟩ | ⟨rfl, hunsafe⟩⟩
    · exact .inl ⟨rfl, exists_mem_earlierLater_iff.mp ⟨first, second, hpair, hid, hoverlap⟩⟩
    · exact .inr ⟨rfl, exists_mem_earlierLater_iff.mp ⟨first, second, hpair, hid, hunsafe⟩⟩
  · rintro (⟨rfl, hinPair⟩ | ⟨rfl, hinPair⟩)
    · obtain ⟨first, second, hpair, hid, hoverlap⟩ := exists_mem_earlierLater_iff.mpr hinPair
      exact ⟨first, second, hpair, hid, .inl ⟨rfl, hoverlap⟩⟩
    · obtain ⟨first, second, hpair, hid, hunsafe⟩ := exists_mem_earlierLater_iff.mpr hinPair
      exact ⟨first, second, hpair, hid, .inr ⟨rfl, hunsafe⟩⟩

/-- The warnings are those of the positions whose fields overlap unsafely. -/
theorem exists_positions_overlapWarnings (fields : List DeclId) :
    ∃ positions : List (Fin fields.length × Fin fields.length),
      positions.Pairwise (Prod.Lex (· < ·) (· < ·)) ∧
      (∀ first second, (first, second) ∈ positions ↔
        first < second ∧ arena.UnsafeOverlap facts fields[first] fields[second]) ∧
      arena.overlapWarnings facts owner (earlierLater fields) =
        positions.map fun (first, second) =>
          .unsafeFieldOverlap owner fields[first] fields[second] := by
  refine ⟨(earlierLater (List.finRange fields.length)).filter fun (first, second) =>
    arena.UnsafeOverlap facts fields[first] fields[second], ?_, ?_, ?_⟩
  · exact (pairwise_earlierLater (List.pairwise_lt_finRange _)).filter _
  · intro first second
    rw [List.mem_filter, mem_earlierLater_positions_iff, decide_eq_true_eq]
  · rw [overlapWarnings, earlierLater_eq_map_positions, List.filter_map, List.map_map]
    rfl

/-- Marking the overlapping fields of an aggregate is exact. -/
theorem Closed.markOverlaps_exact (hclosed : arena.Closed) (facts : TypeFacts)
    {aggregate : Aggregate} (howner : arena.aggregate owner = .ok aggregate) :
    ∃ warnings after, arena.markOverlaps facts owner = .ok (warnings, after) ∧
      MarksExactly facts owner aggregate.fields arena warnings after := by
  have hfields : ∀ field ∈ aggregate.fields, field.number < arena.size :=
    hclosed.fields_lt aggregate (mem_of_aggregate howner)
  obtain ⟨after, hrun, hflags⟩ := exists_markPairs facts owner hfields
  have hagain : ∀ field ∈ aggregate.fields, field.number < after.size := by
    rwa [hflags.size_eq]
  obtain ⟨last, hrerun, hlast⟩ := exists_markPairs facts owner hagain
  obtain rfl : last = after := hflags.eq_of_again hlast
  rw [hflags.overlapWarnings_eq] at hrerun
  refine ⟨_, last, by rw [markOverlaps, howner, ok_bind, hrun], ?_⟩
  constructor
  case warnings_eq => exact exists_positions_overlapWarnings aggregate.fields
  case get =>
    intro id declaration hget
    obtain ⟨flags, hafter, hearned⟩ := hflags.get id declaration hget
    exact ⟨flags, hafter, fun flag => (hearned flag).trans earns_iff_inPair⟩
  case size_eq => exact hflags.size_eq
  case aggregates_eq => exact hflags.aggregates_eq
  case nextSequence_eq => exact hflags.nextSequence_eq
  case again => rw [markOverlaps, hflags.aggregate_eq, howner, ok_bind, hrerun]

/-- Pointers are held by values of the first type alone. -/
def pointerFacts : TypeFacts :=
  .ofRows [{ type := ⟨1⟩, size := 8, hasPointers := true }, { type := ⟨2⟩, size := 4 }]

def fieldAt (offset size : UInt32) (type : Option TypeRef) : Declaration :=
  { Declaration.var ⟨11⟩ .synthetic type with
    owner := .aggregate ⟨0⟩
    entity := .var { offset, size } }

/-- A pointer that ends beyond the last place, data in its last bytes and behind them, and an empty
field.  The data is listed twice. -/
def crowded : Arena where
  declarations := #[fieldAt 4294967290 8 (some ⟨1⟩), fieldAt 4294967295 4 (some ⟨2⟩),
    fieldAt 4294967292 4 (some ⟨2⟩), fieldAt 4294967292 0 none]
  aggregates := #[{ name := ⟨10⟩, span := .synthetic, kind := .union
                    fields := [⟨0⟩, ⟨1⟩, ⟨2⟩, ⟨3⟩, ⟨1⟩] }]

theorem Closed.markOverlaps_exact_crowded :
    ∃ aggregate, (crowded.Closed ∧ crowded.aggregate ⟨0⟩ = .ok aggregate) ∧
    ∃ warnings after, crowded.markOverlaps pointerFacts ⟨0⟩ = .ok (warnings, after) ∧
      MarksExactly pointerFacts ⟨0⟩ aggregate.fields crowded warnings after := by
  have hclosed : crowded.Closed := by decide
  exact ⟨_, ⟨hclosed, rfl⟩, hclosed.markOverlaps_exact pointerFacts rfl⟩

end Arena

end Declarations
