import Declarations.Arena.Basic
import Declarations.TypeFacts

/-!
# Layout of fields

The fields of an aggregate get their places one after the other.  Places are numbers of 32 bits, and
a field that would end beyond the last of them ends at it.  Fields of unions, and fields that an
aggregate takes from others, may share bytes; where one of two such fields holds pointers, safe code
must not use either.
-/

namespace Declarations

def lastPlace : UInt32 :=
  4294967295

/-- The first multiple of `alignment` that is not less than `place`. -/
def nextMultiple (place alignment : UInt32) : UInt32 :=
  if place % alignment = 0 then place else place + (alignment - place % alignment)

/-- The place after a field, or the last place there is. -/
def placeAfter (start size : UInt32) : UInt32 :=
  if start.toNat + size.toNat < UInt32.size then start + size else lastPlace

/-- As numbers, a field ends where its size says, and at the last place at the latest. -/
theorem toNat_placeAfter (start size : UInt32) :
    (placeAfter start size).toNat = min (start.toNat + size.toNat) lastPlace.toNat := by
  have hlast : lastPlace.toNat = 4294967295 := rfl
  have hsize : UInt32.size = 4294967296 := rfl
  simp only [placeAfter]
  split
  · next hfits =>
    rw [UInt32.toNat_add, Nat.mod_eq_of_lt (by omega)]
    omega
  · omega

def Declaration.fieldSize (facts : TypeFacts) (declaration : Declaration) : UInt32 :=
  match declaration.type with
  | some type => facts.size type
  | none => 0

/-- The alignment of a field: the one that is asked for, or else that of its type, and never zero.
-/
def Declaration.fieldAlignment (facts : TypeFacts) (declaration : Declaration)
    (state : Variable) : UInt32 :=
  max 1 ((state.alignment <|> declaration.type.map facts.alignment).getD 1)

namespace Arena

/-- Makes a variable a field of an aggregate, at the first fitting place from `next` on.  The answer
is the place of the field and the place from which the next field is tried; in a union that is the
same for all fields.  Declarations of other kinds are not placed. -/
def placeField (arena : Arena) (facts : TypeFacts) (owner : AggregateId) (field : DeclId)
    (next : UInt32) (isUnion : Bool) : Except Fault ((UInt32 × UInt32) × Arena) := do
  let declaration ← arena.get field
  match declaration.asVariable? with
  | none => return ((next, next), arena)
  | some state =>
      let size := declaration.fieldSize facts
      let start := nextMultiple next (declaration.fieldAlignment facts state)
      let stop := placeAfter start size
      let placed ← arena.modify field fun declaration =>
        { declaration.mapVariable fun state => { state with offset := start, size } with
          storage := insert .field declaration.storage
          owner := .aggregate owner }
      let grown ← placed.modifyAggregate owner fun aggregate =>
        { aggregate with
          size := max aggregate.size stop
          fields := aggregate.fields ++ [field] }
      return ((start, if isUnion then next else stop), grown)

end Arena

/-- Whether two ranges of bytes, neither of which is empty, have a byte in common. -/
def Variable.sharesBytes (left right : Variable) : Bool :=
  left.size ≠ 0 && right.size ≠ 0 &&
    left.offset.toNat < right.offset.toNat + right.size.toNat &&
    right.offset.toNat < left.offset.toNat + left.size.toNat

def Declaration.sameAggregate (left right : Declaration) : Bool :=
  left.memberOf?.isSome && left.memberOf? = right.memberOf?

def Declaration.overlaps (left right : Declaration) : Bool :=
  left.sameAggregate right &&
    match left.asVariable?, right.asVariable? with
    | some first, some second => first.sharesBytes second
    | _, _ => false

def Declaration.holdsPointers (facts : TypeFacts) (declaration : Declaration) : Bool :=
  declaration.type.any facts.hasPointers

namespace Arena

/-- Whether two fields have a byte in common.  A field does not overlap itself. -/
def fieldsOverlap (arena : Arena) (left right : DeclId) : Except Fault Bool := do
  if left = right then
    return false
  else
    return (← arena.get left).overlaps (← arena.get right)

/-- Marks two fields if they overlap.  The answer is a warning if one of them holds pointers. -/
def markPair (arena : Arena) (facts : TypeFacts) (owner : AggregateId) (first second : DeclId) :
    Except Fault (Option DeclError × Arena) := do
  if !(← arena.fieldsOverlap first second) then
    return (none, arena)
  else
    let isUnsafe :=
      (← arena.get first).holdsPointers facts || (← arena.get second).holdsPointers facts
    let flags : FlagSet VariableFlag :=
      if isUnsafe then {.overlapped, .overlapUnsafe} else {.overlapped}
    let mark := fun (state : Variable) => { state with flags := state.flags ∪ flags }
    let marked ← (← arena.modifyVariable first mark).modifyVariable second mark
    return (if isUnsafe then some (.unsafeFieldOverlap owner first second) else none, marked)

def markWithLater (facts : TypeFacts) (owner : AggregateId) (first : DeclId) :
    Arena → List DeclId → Except Fault (List DeclError × Arena)
  | arena, [] => .ok ([], arena)
  | arena, second :: rest => do
      let (warning, arena) ← arena.markPair facts owner first second
      let (warnings, arena) ← markWithLater facts owner first arena rest
      return (warning.toList ++ warnings, arena)

def markPairs (facts : TypeFacts) (owner : AggregateId) :
    Arena → List DeclId → Except Fault (List DeclError × Arena)
  | arena, [] => .ok ([], arena)
  | arena, first :: rest => do
      let (warnings, arena) ← markWithLater facts owner first arena rest
      let (later, arena) ← markPairs facts owner arena rest
      return (warnings ++ later, arena)

/-- Marks every pair of overlapping fields of an aggregate.  The answer is a warning for each pair
of which one holds pointers, in the order of the fields. -/
def markOverlaps (arena : Arena) (facts : TypeFacts) (owner : AggregateId) :
    Except Fault (List DeclError × Arena) := do
  markPairs facts owner arena (← arena.aggregate owner).fields

end Arena

end Declarations
