import Declarations.Name

/-!
# Interning

An interner gives each text one name.  It holds the distinct texts in the order in which they were
first seen, after the texts with fixed names, so a name is the place of its text.  The way back,
from a text to its place, is a map of its own, which grows together with the texts.
-/

namespace Declarations

/-- Why a text gets no name. -/
inductive InternError where
  /-- All names are in use. -/
  | overflow (count : Nat)
  deriving DecidableEq

def InternError.message : InternError → String
  | overflow count =>
      "interner exceeded capacity: " ++ toString count ++ " strings, max is 4294967295"

/-- The map from the texts of a list to their places. -/
theorem lookup_zipIdx {texts : List String} (hdistinct : texts.Nodup) (start : Nat) (text : String)
    (place : Nat) :
    (texts.zipIdx start).lookup text = some place ↔
      start ≤ place ∧ texts[place - start]? = some text := by
  induction texts generalizing start with
  | nil => simp
  | cons first rest ih =>
    obtain ⟨hnew, hrest⟩ := List.nodup_cons.mp hdistinct
    rw [List.zipIdx_cons, List.lookup_cons]
    by_cases hfirst : text = first
    · subst hfirst
      have hnone : ∀ offset : Nat, rest[offset]? ≠ some text :=
        fun offset hoffset => hnew (List.mem_of_getElem? hoffset)
      grind
    · have hlook : (text == first) = false := by simpa using hfirst
      rw [hlook, ih hrest]
      grind

/-- The distinct texts seen so far; the name of a text is its place. -/
structure Interner where
  /-- The texts in the order in which they were first seen. -/
  texts : Array String
  /-- The place of each text, the latest one first. -/
  places : List (String × Nat)
  /-- The texts with fixed names have the first places. -/
  startsFixed : Name.wellKnownTexts <+: texts.toList
  /-- The map leads from each text to the place where it stands, and nowhere else. -/
  inverse : ∀ text place, places.lookup text = some place ↔ texts[place]? = some text

namespace Interner

/-- An interner that knows only the texts with fixed names. -/
def initial : Interner where
  texts := Name.wellKnownTexts.toArray
  places := Name.wellKnownTexts.zipIdx
  startsFixed := List.prefix_refl _
  inverse text place := by
    rw [lookup_zipIdx (by decide)]
    simp

def find? (interner : Interner) (text : String) : Option Name :=
  (interner.places.lookup text).map Name.mk

/-- The name of a text is the place where it stands. -/
theorem find?_eq_some_iff {interner : Interner} {text : String} {name : Name} :
    interner.find? text = some name ↔ interner.texts[name.index]? = some text := by
  rw [← interner.inverse, find?, Option.map_eq_some_iff]
  constructor
  · rintro ⟨place, hplace, rfl⟩
    exact hplace
  · intro hplace
    exact ⟨name.index, hplace, rfl⟩

/-- A text has a name when it was seen before. -/
theorem find?_eq_none_iff {interner : Interner} {text : String} :
    interner.find? text = none ↔ text ∉ interner.texts.toList := by
  rw [List.mem_iff_getElem?, not_exists, Option.eq_none_iff_forall_ne_some]
  constructor
  · intro hnone place hplace
    exact hnone ⟨place⟩ (find?_eq_some_iff.mpr (by simpa using hplace))
  · intro hnowhere name hname
    exact hnowhere name.index (by simpa using find?_eq_some_iff.mp hname)

def push (interner : Interner) (text : String) (isNew : interner.find? text = none) : Interner where
  texts := interner.texts.push text
  places := (text, interner.texts.size) :: interner.places
  startsFixed := by
    rw [Array.toList_push]
    exact interner.startsFixed.trans (List.prefix_append _ _)
  inverse other place := by
    rw [List.lookup_cons, Array.getElem?_push]
    by_cases hother : other = text
    · subst hother
      have hnowhere : interner.texts[place]? ≠ some other := by
        intro hplace
        have hname : interner.find? other = some ⟨place⟩ := find?_eq_some_iff.mpr hplace
        rw [isNew] at hname
        contradiction
      by_cases hend : place = interner.texts.size
      · simp [hend]
      · simp [hend, hnowhere, Ne.symm hend]
    · have hlook : (other == text) = false := by simpa using hother
      rw [hlook, interner.inverse]
      by_cases hend : place = interner.texts.size
      · simp [hend, Ne.symm hother]
      · simp [hend]

def intern (interner : Interner) (text : String) : Name × Interner :=
  match found : interner.find? text with
  | some name => (name, interner)
  | none => (⟨interner.texts.size⟩, interner.push text found)

/-- The text of a name.  A name that no text has reads as the empty text. -/
def text (interner : Interner) (name : Name) : String :=
  interner.texts[name.index]?.getD ""

def size (interner : Interner) : Nat :=
  interner.texts.size

/-- The number of names there can be: a name is a number of 32 bits. -/
def capacity : Nat := 4294967296

/-- Interns a text unless it would need a name and there is none left. -/
def tryIntern (interner : Interner) (text : String) : Except InternError (Name × Interner) :=
  if (interner.find? text).isSome || interner.size < capacity then
    .ok (interner.intern text)
  else
    .error (.overflow interner.size)

/-- A text that was seen before is the text of its name. -/
theorem text_of_find? {interner : Interner} {text : String} {name : Name}
    (found : interner.find? text = some name) : interner.text name = text := by
  rw [Interner.text, find?_eq_some_iff.mp found, Option.getD_some]

/-- After a text was interned its name is found. -/
@[simp]
theorem find?_intern (interner : Interner) (text : String) :
    (interner.intern text).2.find? text = some (interner.intern text).1 := by
  simp only [intern]
  split
  · next name found => exact found
  · rw [find?_eq_some_iff]
    simp [push]

/-- Interning a text gives a name that reads as the text. -/
@[simp]
theorem text_intern (interner : Interner) (text : String) :
    (interner.intern text).2.text (interner.intern text).1 = text :=
  text_of_find? (find?_intern interner text)

/-- A text that was not seen before is put after the others. -/
theorem toList_texts_intern (interner : Interner) (text : String) :
    (interner.intern text).2.texts.toList =
      if text ∈ interner.texts.toList then interner.texts.toList
      else interner.texts.toList ++ [text] := by
  simp only [intern]
  split
  · next name found =>
    have hmem : text ∈ interner.texts.toList :=
      List.mem_iff_getElem?.mpr ⟨name.index, by simpa using find?_eq_some_iff.mp found⟩
    rw [if_pos hmem]
  · next missing => simp [push, find?_eq_none_iff.mp missing]

end Interner

end Declarations
