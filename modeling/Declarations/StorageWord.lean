import Declarations.StorageClass

/-!
# Words of storage classes

Other programs hold a storage class as a word of 64 bits.  Bit 15 and the bits from 52 on stand for
no property.  A word may have them all the same: no property is read off them, but union and
difference keep them, and words that differ in them are different.  `truncate` drops them, and a
storage class of this library is a word without them.
-/

namespace Declarations

/-- A storage class as other programs hold it. -/
structure StorageWord where
  bits : BitVec 64
  deriving DecidableEq

namespace StorageWord

instance : EmptyCollection StorageWord := ⟨⟨0⟩⟩

@[simp]
theorem bits_empty : (∅ : StorageWord).bits = 0 :=
  rfl

instance : Union StorageWord := ⟨fun left right => ⟨left.bits ||| right.bits⟩⟩

@[simp]
theorem bits_union (left right : StorageWord) : (left ∪ right).bits = left.bits ||| right.bits :=
  rfl

instance : SDiff StorageWord := ⟨fun left right => ⟨left.bits &&& ~~~right.bits⟩⟩

@[simp]
theorem bits_sdiff (left right : StorageWord) : (left \ right).bits = left.bits &&& ~~~right.bits :=
  rfl

def ofFlag (flag : StorageFlag) : StorageWord :=
  ⟨1 <<< flag.number⟩

def ofFlags (flags : List StorageFlag) : StorageWord :=
  flags.foldr (fun flag word => ofFlag flag ∪ word) ∅

def has (word : StorageWord) (flag : StorageFlag) : Bool :=
  word.bits &&& (ofFlag flag).bits != 0

def contains (word other : StorageWord) : Bool :=
  word.bits &&& other.bits == other.bits

/-- The keywords of the properties that the word contains, in the order of the bits. -/
def keywords (word : StorageWord) : List String :=
  (StorageFlag.catalogue.filter fun flag => word.contains (ofFlag flag)).map StorageFlag.keyword

def defined : StorageWord :=
  ofFlags StorageFlag.catalogue

/-- The word without the bits that stand for no property. -/
def truncate (word : StorageWord) : StorageWord :=
  ⟨word.bits &&& defined.bits⟩

@[simp]
theorem bits_truncate (word : StorageWord) : word.truncate.bits = word.bits &&& defined.bits :=
  rfl

def IsDefined (word : StorageWord) : Prop :=
  word.truncate = word

instance (word : StorageWord) : Decidable word.IsDefined :=
  inferInstanceAs (Decidable (word.truncate = word))

def storage (word : StorageWord) : StorageClass :=
  .ofList (StorageFlag.catalogue.filter word.has)

end StorageWord

namespace StorageClass

def word (storage : StorageClass) : StorageWord :=
  .ofFlags storage.toList

/-- The storage class that a word stands for; bits of no property are ignored. -/
def ofBits (bits : Nat) : StorageClass :=
  StorageWord.storage ⟨.ofNat 64 bits⟩

end StorageClass

end Declarations
