import Declarations.StorageWord
import Mathlib.Data.List.Nodup

/-!
# Reading words of storage classes

The table of the properties gives each of them a bit and a keyword of its own.  So every property is
read off a word by one bit test that no other property has a part in, and the list of keywords,
which follows the order of the bits, says all about the bits that stand for properties.  It says
nothing about the others: words with the same keywords may differ there.
-/

namespace Declarations

namespace FlagSet

variable {α : Type} [DecidableEq α] [Flag α] {left right : FlagSet α}

theorem toList_sublist (set : FlagSet α) : set.toList.Sublist Flag.all :=
  List.filter_sublist

@[simp]
theorem ofList_toList (set : FlagSet α) : ofList set.toList = set := by
  ext flag
  simp

theorem toList_inj : left.toList = right.toList ↔ left = right :=
  ⟨fun hsame => by rw [← ofList_toList left, hsame, ofList_toList], congrArg toList⟩

end FlagSet

namespace StorageFlag

/-- The numbers of the properties grow along the catalogue, so no number is used twice. -/
theorem pairwise_number : catalogue.Pairwise fun left right => left.number < right.number := by
  decide

/-- No keyword stands for two properties. -/
theorem nodup_keywords : (catalogue.map keyword).Nodup := by
  decide

theorem mem_catalogue (flag : StorageFlag) : flag ∈ catalogue :=
  Flag.mem_all flag

theorem number_lt (flag : StorageFlag) : flag.number < 64 := by
  cases flag <;> decide

theorem number_inj {left right : StorageFlag} : left.number = right.number ↔ left = right := by
  have hnodup : (catalogue.map number).Nodup :=
    List.pairwise_map.mpr (pairwise_number.imp Nat.ne_of_lt)
  constructor
  · exact List.inj_on_of_nodup_map hnodup (mem_catalogue left) (mem_catalogue right)
  · exact congrArg number

theorem keyword_injective : Function.Injective keyword := by
  intro left right hsame
  exact List.inj_on_of_nodup_map nodup_keywords (mem_catalogue left) (mem_catalogue right) hsame

end StorageFlag

/-- The keywords say all about a storage class. -/
theorem StorageClass.keywords_inj {left right : StorageClass} :
    left.keywords = right.keywords ↔ left = right := by
  rw [keywords, keywords, (List.map_injective_iff.mpr StorageFlag.keyword_injective).eq_iff,
    FlagSet.toList_inj]

namespace StorageWord

variable {word other unrelated : StorageWord} {flag : StorageFlag} {flags : List StorageFlag}
  {position : Nat}

/-! ## Bits -/

theorem bits_ofFlag : (ofFlag flag).bits = BitVec.twoPow 64 flag.number :=
  (BitVec.twoPow_eq 64 flag.number).symm

theorem bits_ofFlag_ne_zero : (ofFlag flag).bits ≠ 0 := by
  intro hzero
  have hbit : (ofFlag flag).bits.getLsbD flag.number = true := by
    simp [bits_ofFlag, StorageFlag.number_lt]
  simp [hzero] at hbit

theorem bits_and_ofFlag : word.bits &&& (ofFlag flag).bits =
    if word.bits.getLsbD flag.number then (ofFlag flag).bits else 0 := by
  rw [bits_ofFlag, BitVec.and_twoPow]
  rfl

/-- A property is read off its own bit. -/
theorem has_eq : word.has flag = word.bits.getLsbD flag.number := by
  rw [has, bits_and_ofFlag]
  cases word.bits.getLsbD flag.number with
  | false => rfl
  | true => simpa using bits_ofFlag_ne_zero

theorem contains_ofFlag : word.contains (ofFlag flag) = word.has flag := by
  rw [has_eq, contains, bits_and_ofFlag]
  cases word.bits.getLsbD flag.number with
  | false => simpa using Ne.symm bits_ofFlag_ne_zero
  | true => simp

@[simp]
theorem has_union : (word ∪ other).has flag = (word.has flag || other.has flag) := by
  simp [has_eq]

@[simp]
theorem has_sdiff : (word \ other).has flag = (word.has flag && !other.has flag) := by
  simp [has_eq, StorageFlag.number_lt]

/-- The bits of a word that is made of properties are theirs. -/
theorem getLsbD_ofFlags :
    (ofFlags flags).bits.getLsbD position = true ↔ ∃ flag ∈ flags, flag.number = position := by
  induction flags with
  | nil => simp [ofFlags]
  | cons flag flags ih =>
    have hcons : ofFlags (flag :: flags) = ofFlag flag ∪ ofFlags flags := rfl
    rw [hcons, bits_union, BitVec.getLsbD_or, Bool.or_eq_true, ih, bits_ofFlag]
    simp [StorageFlag.number_lt]

@[simp]
theorem has_ofFlags : (ofFlags flags).has flag = decide (flag ∈ flags) := by
  rw [has_eq, Bool.eq_iff_iff, getLsbD_ofFlags, decide_eq_true_iff]
  simp [StorageFlag.number_inj]

/-- The bits that stand for no property are dropped. -/
theorem getLsbD_truncate : word.truncate.bits.getLsbD position = true ↔
    ∃ flag, word.has flag = true ∧ flag.number = position := by
  rw [bits_truncate, BitVec.getLsbD_and, Bool.and_eq_true, defined, getLsbD_ofFlags]
  constructor
  · rintro ⟨hbit, flag, -, rfl⟩
    exact ⟨flag, has_eq.trans hbit, rfl⟩
  · rintro ⟨flag, hhas, rfl⟩
    exact ⟨has_eq.symm.trans hhas, flag, StorageFlag.mem_catalogue flag, rfl⟩

theorem truncate_eq_ofFlags (hflags : ∀ flag, flag ∈ flags ↔ word.has flag = true) :
    ofFlags flags = word.truncate := by
  have hbits : (ofFlags flags).bits = word.truncate.bits := by
    apply BitVec.eq_of_getLsbD_eq
    intro position _
    rw [Bool.eq_iff_iff, getLsbD_ofFlags, getLsbD_truncate]
    simp only [hflags]
  exact congrArg mk hbits

/-- A word is its defined bits and the others. -/
theorem eq_iff : word = other ↔
    word.truncate = other.truncate ∧ word \ defined = other \ defined := by
  constructor
  · rintro rfl
    exact ⟨rfl, rfl⟩
  · rintro ⟨hdefined, hothers⟩
    have hsplit : ∀ word : StorageWord,
        word.bits = word.truncate.bits ||| (word \ defined).bits := by
      intro word
      apply BitVec.eq_of_getLsbD_eq
      intro position hposition
      simp only [bits_truncate, bits_sdiff, BitVec.getLsbD_or, BitVec.getLsbD_and,
        BitVec.getLsbD_not, hposition, decide_true, Bool.true_and]
      cases defined.bits.getLsbD position <;> simp
    have hbits : word.bits = other.bits := by
      rw [hsplit word, hsplit other, hdefined, hothers]
    exact congrArg mk hbits

/-! ## The storage class of a word -/

@[simp]
theorem mem_storage : flag ∈ word.storage ↔ word.has flag = true := by
  simp [storage, StorageFlag.mem_catalogue]

theorem toList_storage : word.storage.toList = StorageFlag.catalogue.filter word.has := by
  refine List.filter_congr fun flag _ => ?_
  rw [Bool.eq_iff_iff, ← FlagSet.mem_iff, mem_storage]

theorem keywords_storage : word.storage.keywords = word.keywords := by
  simp only [StorageClass.keywords, toList_storage, keywords, contains_ofFlag]

/-- A word that became a storage class has lost the bits that stand for no property. -/
theorem word_storage : word.storage.word = word.truncate :=
  truncate_eq_ofFlags (by simp)

/-- Storage classes are the words without such bits. -/
theorem storage_word (storage : StorageClass) : storage.word.storage = storage := by
  ext flag
  simp [StorageClass.word]

theorem isDefined_iff : word.IsDefined ↔ ∃ storage : StorageClass, storage.word = word := by
  constructor
  · exact fun hdefined => ⟨word.storage, word_storage.trans hdefined⟩
  · rintro ⟨storage, rfl⟩
    rw [IsDefined, ← word_storage, storage_word]

theorem storage_truncate : word.truncate.storage = word.storage := by
  rw [← word_storage, storage_word]

/-- The keywords say all about the defined bits. -/
theorem keywords_eq_iff : word.keywords = other.keywords ↔ word.truncate = other.truncate := by
  rw [← keywords_storage, ← keywords_storage, StorageClass.keywords_inj]
  constructor
  · intro hsame
    rw [← word_storage, hsame, word_storage]
  · intro hsame
    rw [← storage_truncate, hsame, storage_truncate]

/-- Each property of the catalogue is read off a word by a test of its own bit, and union and
difference act on each property by itself.  Words are the same if they have the same keywords and
the same bits that stand for no property; where there are no such bits, as in the words of the
storage classes of this library, the keywords alone tell.  The keywords are those of a part of the
catalogue, each of them once and in the order of the bits, and the properties of this part make up
the word without the bits that stand for none. -/
theorem catalogue_faithful (word other : StorageWord) :
    (∀ flag ∈ StorageFlag.catalogue,
      word.has flag = word.bits.getLsbD flag.number ∧
      (word ∪ other).has flag = (word.has flag || other.has flag) ∧
      (word \ other).has flag = (word.has flag && !other.has flag) ∧
      ∀ unrelated : StorageWord, unrelated.has flag = false →
        (word ∪ unrelated).has flag = word.has flag ∧
        (word \ unrelated).has flag = word.has flag) ∧
    (word = other ↔ word.keywords = other.keywords ∧ word \ defined = other \ defined) ∧
    (word.IsDefined → other.IsDefined → (word = other ↔ word.keywords = other.keywords)) ∧
    (word.IsDefined ↔ ∃ storage : StorageClass, storage.word = word) ∧
    word.keywords.Nodup ∧
    ∃ flags : List StorageFlag, flags.Sublist StorageFlag.catalogue ∧
      word.keywords = flags.map StorageFlag.keyword ∧
      flags.Pairwise (fun left right => left.number < right.number) ∧
      ofFlags flags = word.truncate ∧ (ofFlags flags = word ↔ word.IsDefined) := by
  have hlisted : word.storage.toList.Sublist StorageFlag.catalogue := word.storage.toList_sublist
  have hkeywords : word.keywords = word.storage.toList.map StorageFlag.keyword :=
    keywords_storage.symm
  have hmakes : ofFlags word.storage.toList = word.truncate := word_storage
  refine ⟨fun flag _ => ⟨has_eq, has_union, has_sdiff, ?_⟩, ?_, ?_, isDefined_iff, ?_,
    word.storage.toList, hlisted, hkeywords, StorageFlag.pairwise_number.sublist hlisted,
    hmakes, ?_⟩
  · intro unrelated hunrelated
    simp [hunrelated]
  · rw [eq_iff, keywords_eq_iff]
  · intro hword hother
    rw [keywords_eq_iff, hword, hother]
  · rw [hkeywords]
    exact StorageFlag.nodup_keywords.sublist (hlisted.map _)
  · rw [hmakes, IsDefined]

/-- A reference is as pure with `inout` as without it. -/
theorem catalogue_faithful_pureReference :
    StorageFlag.pure ∈ StorageFlag.catalogue ∧ (ofFlag .wild).has .pure = false ∧
    (ofFlags [.ref, .pure]).IsDefined ∧ (ofFlags [.pure, .ref]).IsDefined ∧
    ((ofFlags [.ref, .pure] ∪ ofFlag .wild).has .pure = (ofFlags [.ref, .pure]).has .pure ∧
      (ofFlags [.ref, .pure] \ ofFlag .wild).has .pure = (ofFlags [.ref, .pure]).has .pure) ∧
    (ofFlags [.ref, .pure] = ofFlags [.pure, .ref] ↔
      (ofFlags [.ref, .pure]).keywords = (ofFlags [.pure, .ref]).keywords) := by
  have hflag : StorageFlag.pure ∈ StorageFlag.catalogue := StorageFlag.mem_catalogue .pure
  have hunrelated : (ofFlag .wild).has .pure = false := by decide
  have hword : (ofFlags [.ref, .pure]).IsDefined := by decide
  have hother : (ofFlags [.pure, .ref]).IsDefined := by decide
  obtain ⟨haccess, -, hkeywords, -⟩ :=
    catalogue_faithful (ofFlags [.ref, .pure]) (ofFlags [.pure, .ref])
  obtain ⟨-, -, -, hunaffected⟩ := haccess .pure hflag
  exact ⟨hflag, hunrelated, hword, hother, hunaffected _ hunrelated, hkeywords hword hother⟩

def bitFifteen : StorageWord :=
  ⟨1 <<< 15⟩

/-- A bit that stands for no property is not seen in the keywords, and no properties have it. -/
theorem keywords_eq_bitFifteen : bitFifteen.keywords = (∅ : StorageWord).keywords ∧
    bitFifteen ≠ ∅ ∧ ∀ flags, ofFlags flags ≠ bitFifteen := by
  refine ⟨by rfl, by decide, fun flags hsame => ?_⟩
  have hbit : (ofFlags flags).bits.getLsbD 15 = true := by rw [hsame]; rfl
  obtain ⟨flag, -, hnumber⟩ := getLsbD_ofFlags.mp hbit
  cases flag <;> contradiction

example : (ofFlags [.nogc, .static, .pure]).keywords = ["static", "pure", "@nogc"] := by
  rfl

end StorageWord

end Declarations
