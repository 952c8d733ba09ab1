import Declarations.Arena.Basic

/-!
# Reading an arena after a change

What each operation of the arena does to the declarations that can be read from it.  Adding a
declaration leaves every earlier handle as it was, and a change of one declaration is seen at its
handle alone.  All operations on declarations are made of these two.
-/

namespace Declarations

namespace Arena

/-- A handle can be read exactly when it is smaller than the arena. -/
theorem get_isOk_iff {arena : Arena} {id : DeclId} :
    (arena.get id).isOk ↔ id.number < arena.size := by
  simp only [get, size]
  split
  · next found => exact iff_of_true rfl (Array.getElem?_eq_some_iff.mp found).1
  · next missing => simpa [Except.isOk, Except.toBool] using missing

theorem get_eq_ok_iff {arena : Arena} {id : DeclId} {declaration : Declaration} :
    arena.get id = .ok declaration ↔ arena.declarations[id.number]? = some declaration := by
  simp only [get]
  split <;> simp_all

@[simp]
theorem size_add (arena : Arena) (declaration : Declaration) :
    (arena.add declaration).2.size = arena.size + 1 := by
  simp [add, size]

/-- The new declaration is read back with the number that a variable gets. -/
@[simp]
theorem get_add_self (arena : Arena) (declaration : Declaration) :
    (arena.add declaration).2.get (arena.add declaration).1 =
      .ok (declaration.mapVariable fun state => { state with sequence := arena.nextSequence }) := by
  simp [get_eq_ok_iff, add, size]

/-- Adding a declaration leaves the earlier ones as they were. -/
theorem get_add_of_lt {arena : Arena} {id : DeclId} (declaration : Declaration)
    (hearlier : id.number < arena.size) : (arena.add declaration).2.get id = arena.get id := by
  have hbound : id.number < arena.declarations.size := hearlier
  simp [get, add, Array.getElem?_push, Nat.ne_of_lt hbound]

theorem tryAdd_of_lt {arena : Arena} (declaration : Declaration) (hroom : arena.size < capacity) :
    arena.tryAdd declaration = .ok (arena.add declaration) :=
  if_pos hroom

theorem tryAdd_of_le {arena : Arena} (declaration : Declaration) (hfull : capacity ≤ arena.size) :
    arena.tryAdd declaration = .error .noRoom :=
  if_neg (Nat.not_lt.mpr hfull)

/-- A change goes through exactly when its handle can be read. -/
theorem modify_isOk_iff {arena : Arena} {id : DeclId} {change : Declaration → Declaration} :
    (arena.modify id change).isOk ↔ id.number < arena.size := by
  simp only [modify]
  split <;> simp_all [Except.isOk, Except.toBool]

/-- A change keeps the number of declarations. -/
theorem size_of_modify {arena changed : Arena} {id : DeclId} {change : Declaration → Declaration}
    (hchange : arena.modify id change = .ok changed) : changed.size = arena.size := by
  simp only [modify] at hchange
  split at hchange
  · obtain rfl := Except.ok.inj hchange
    simp [size]
  · contradiction

/-- A change is seen at its handle alone. -/
theorem get_of_modify {arena changed : Arena} {id : DeclId} {change : Declaration → Declaration}
    (hchange : arena.modify id change = .ok changed) (other : DeclId) :
    changed.get other =
      if other = id then (arena.get other).map change else arena.get other := by
  simp only [modify] at hchange
  split at hchange
  · next hbound =>
    obtain rfl := Except.ok.inj hchange
    simp only [get, Array.getElem?_modify]
    obtain ⟨number⟩ := id
    obtain ⟨otherNumber⟩ := other
    simp only [DeclId.mk.injEq]
    by_cases hsame : otherNumber = number
    · subst hsame
      simp only [if_true]
      cases arena.declarations[otherNumber]? <;> rfl
    · simp [hsame, Ne.symm hsame]
  · contradiction

end Arena

end Declarations
