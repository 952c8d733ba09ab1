import Declarations.Name

/-!
# Tables by name

The locals and the labels of a function are looked up by name.  A table keeps its entries in
strictly ascending order of their names, so there is one entry for each name, and tables with the
same look-ups list the same entries.
-/

namespace Declarations

def SortedByName {α : Type} (entries : List (Name × α)) : Prop :=
  entries.Pairwise fun earlier later => earlier.1.index < later.1.index

/-- A finite map from names, as a list in ascending order of the names. -/
structure NameTable (α : Type) where
  entries : List (Name × α)
  sorted : SortedByName entries

namespace NameTable

variable {α : Type}

def empty : NameTable α where
  entries := []
  sorted := List.Pairwise.nil

def find? (table : NameTable α) (name : Name) : Option α :=
  (table.entries.find? fun entry => entry.1 = name).map Prod.snd

/-- Puts an entry in front of the first one with a larger name, in place of one with the same name.
-/
def insertEntry (name : Name) (value : α) : List (Name × α) → List (Name × α)
  | [] => [(name, value)]
  | entry :: rest =>
      if name = entry.1 then (name, value) :: rest
      else if name.index < entry.1.index then (name, value) :: entry :: rest
      else entry :: insertEntry name value rest

/-- The only new entry is the inserted one. -/
theorem mem_of_mem_insertEntry {name : Name} {value : α} {entries : List (Name × α)}
    {entry : Name × α} (hmem : entry ∈ insertEntry name value entries) :
    entry = (name, value) ∨ entry ∈ entries := by
  induction entries with
  | nil => simpa [insertEntry] using hmem
  | cons head rest ih =>
    simp only [insertEntry] at hmem
    grind

/-- Putting an entry in its place keeps the order. -/
theorem sorted_insertEntry (name : Name) (value : α) {entries : List (Name × α)}
    (hsorted : SortedByName entries) : SortedByName (insertEntry name value entries) := by
  induction entries with
  | nil => simp [insertEntry, SortedByName]
  | cons head rest ih =>
    obtain ⟨hhead, hrest⟩ := List.pairwise_cons.mp hsorted
    simp only [insertEntry]
    split
    · next hname =>
      subst hname
      exact List.pairwise_cons.mpr ⟨hhead, hrest⟩
    · next hname =>
      split
      · next hbefore =>
        refine List.pairwise_cons.mpr ⟨?_, hsorted⟩
        intro entry hentry
        rcases List.mem_cons.mp hentry with rfl | hentry
        · exact hbefore
        · exact Nat.lt_trans hbefore (hhead entry hentry)
      · next hbefore =>
        have hafter : head.1.index < name.index := by
          refine Nat.lt_of_le_of_ne (Nat.le_of_not_lt hbefore) fun heq => hname ?_
          obtain ⟨index⟩ := name
          exact congrArg Name.mk heq.symm
        refine List.pairwise_cons.mpr ⟨?_, ih hrest⟩
        intro entry hentry
        rcases mem_of_mem_insertEntry hentry with rfl | hentry
        · exact hafter
        · exact hhead entry hentry

def insert (table : NameTable α) (name : Name) (value : α) : NameTable α where
  entries := insertEntry name value table.entries
  sorted := sorted_insertEntry name value table.sorted

@[simp]
theorem find?_empty (name : Name) : (empty : NameTable α).find? name = none :=
  rfl

/-- After an insertion the name stands for the new value, and every other name for what it stood for
before. -/
@[simp]
theorem find?_insert (table : NameTable α) (name other : Name) (value : α) :
    (table.insert name value).find? other =
      if other = name then some value else table.find? other := by
  obtain ⟨entries, hsorted⟩ := table
  simp only [find?, insert]
  clear hsorted
  induction entries with
  | nil => grind [insertEntry]
  | cons head rest ih => grind [insertEntry]

end NameTable

end Declarations
