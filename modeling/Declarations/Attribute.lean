import Declarations.StorageClass

/-!
# Inferable attributes

The four guarantees of a function that can be concluded from what its body does.  Each one, once it
is known to hold, is recorded as a property in the storage class of the function.
-/

namespace Declarations

/-- A guarantee that a function gives to its callers. -/
inductive Attribute where
  | purity
  | safety
  | nothrow
  | nogc
  deriving DecidableEq

instance : Flag Attribute where
  all := [.purity, .safety, .nothrow, .nogc]
  mem_all := by intro guarantee; cases guarantee <;> decide
  nodup_all := by decide
  bit := Attribute.ctorIdx

abbrev Attributes := FlagSet Attribute

namespace Attribute

/-- The property that records that the attribute holds. -/
def flag : Attribute → StorageFlag
  | purity => .pure
  | safety => .safe
  | nothrow => .nothrow
  | nogc => .nogc

def keyword : Attribute → String
  | purity => "pure"
  | safety => "@safe"
  | nothrow => "nothrow"
  | nogc => "@nogc"

/-- The properties that each give the attribute.  A trusted function is safe to call. -/
def witnesses : Attribute → StorageClass
  | safety => {.safe, .trusted}
  | guarantee => {guarantee.flag}

def holdsIn (guarantee : Attribute) (storage : StorageClass) : Bool :=
  storage.meets guarantee.witnesses

@[simp]
theorem flag_inj {left right : Attribute} : left.flag = right.flag ↔ left = right := by
  cases left <;> cases right <;> decide

theorem mem_witnesses {guarantee : Attribute} {mark : StorageFlag} :
    mark ∈ guarantee.witnesses ↔
      mark = guarantee.flag ∨ guarantee = .safety ∧ mark = .trusted := by
  cases guarantee <;> simp [witnesses, flag]

/-- A storage class gives an attribute through the property that records it; for safety, trust does
as well. -/
theorem holdsIn_iff {guarantee : Attribute} {storage : StorageClass} :
    guarantee.holdsIn storage = true ↔
      guarantee.flag ∈ storage ∨ guarantee = .safety ∧ .trusted ∈ storage := by
  simp only [holdsIn, FlagSet.meets_iff, mem_witnesses]
  constructor
  · rintro ⟨mark, hmem, rfl | ⟨hsafety, rfl⟩⟩
    · exact .inl hmem
    · exact .inr ⟨hsafety, hmem⟩
  · rintro (hmem | ⟨hsafety, hmem⟩)
    · exact ⟨_, hmem, .inl rfl⟩
    · exact ⟨_, hmem, .inr ⟨hsafety, rfl⟩⟩

end Attribute

def Attributes.storage (attributes : Attributes) : StorageClass :=
  FlagSet.ofList (attributes.toList.map Attribute.flag)

theorem Attributes.mem_storage {attributes : Attributes} {mark : StorageFlag} :
    mark ∈ attributes.storage ↔ ∃ guarantee ∈ attributes, guarantee.flag = mark := by
  simp [storage]

end Declarations
