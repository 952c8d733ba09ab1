import Declarations.Nesting.Closure
import Declarations.Proofs.Arena.Change

/-!
# Marks of closures

A function that needs a closure is marked.  Nothing that the search for closures reads depends on
the marks, so two arenas that differ in nothing but marks are alike for it.
-/

namespace Declarations

def Func.unmarked (function : Func) : Func :=
  { function with requiresClosure := false }

def Declaration.unmarked (declaration : Declaration) : Declaration :=
  declaration.mapFunc Func.unmarked

namespace Declaration

variable {declaration : Declaration} {change : Func → Func}

@[simp]
theorem handles_unmarked : declaration.unmarked.handles = declaration.handles :=
  handles_mapFunc fun _ => rfl

@[simp]
theorem aggregateHandles_unmarked :
    declaration.unmarked.aggregateHandles = declaration.aggregateHandles :=
  aggregateHandles_mapFunc

@[simp]
theorem storage_unmarked : declaration.unmarked.storage = declaration.storage :=
  storage_mapFunc

@[simp]
theorem isFunction_unmarked : declaration.unmarked.isFunction = declaration.isFunction :=
  isFunction_mapFunc

theorem asFunc?_unmarked : declaration.unmarked.asFunc? = declaration.asFunc?.map Func.unmarked :=
  asFunc?_mapFunc

@[simp]
theorem localTo?_unmarked : declaration.unmarked.localTo? = declaration.localTo? :=
  localTo?_mapFunc

@[simp]
theorem objectOf?_unmarked : declaration.unmarked.objectOf? = declaration.objectOf? :=
  objectOf?_mapFunc fun _ => rfl

@[simp]
theorem escapes_unmarked : declaration.unmarked.escapes = declaration.escapes := by
  simp only [escapes, objectOf?_unmarked, asFunc?_unmarked]
  cases declaration.asFunc? <;> rfl

/-- A change that only sets the mark is not seen without it. -/
theorem unmarked_mapFunc (hchange : ∀ state, (change state).unmarked = state.unmarked) :
    (declaration.mapFunc change).unmarked = declaration.unmarked := by
  cases hfunc : declaration.asFunc? with
  | none => rw [mapFunc_of_asFunc?_eq_none hfunc]
  | some state =>
    have hchanged : (declaration.mapFunc change).asFunc? = some (change state) := by
      rw [asFunc?_mapFunc, hfunc, Option.map_some]
    rw [unmarked, mapFunc_of_asFunc? hchanged, unmarked, mapFunc_of_asFunc? hfunc,
      mapFunc_of_asFunc? hfunc, hchange]

end Declaration

namespace Arena

def unmarked (arena : Arena) : Arena :=
  { arena with declarations := arena.declarations.map Declaration.unmarked }

variable {arena before after : Arena} {id : DeclId} {declaration : Declaration}

@[simp]
theorem size_unmarked : arena.unmarked.size = arena.size := by
  simp [unmarked, size]

@[simp]
theorem get_unmarked : arena.unmarked.get id = (arena.get id).map Declaration.unmarked := by
  simp only [get, unmarked, Array.getElem?_map]
  cases arena.declarations[id.number]? <;> rfl

@[simp]
theorem closed_unmarked : arena.unmarked.Closed ↔ arena.Closed := by
  simp only [closed_iff, size_unmarked]
  simp [unmarked]

theorem unmarked_of_modifyFunc {change : Func → Func}
    (hchange : ∀ state, (change state).unmarked = state.unmarked)
    (hmodify : before.modifyFunc id change = .ok after) : after.unmarked = before.unmarked := by
  have hbound : id.number < before.size := modify_isOk_iff.mp (by rw [← modifyFunc, hmodify]; rfl)
  simp only [modifyFunc, modify, hbound, if_true, Except.ok.injEq] at hmodify
  subst after
  simp only [unmarked, mk.injEq, and_true]
  apply map_modify_of_look_eq
  intro declaration _
  exact Declaration.unmarked_mapFunc hchange

/-- Only marks of closures have changed. -/
def Marks (before after : Arena) : Prop :=
  after.unmarked = before.unmarked

namespace Marks

theorem refl : Marks arena arena :=
  rfl

theorem trans {middle : Arena} (hfirst : Marks before middle) (hsecond : Marks middle after) :
    Marks before after :=
  Eq.trans hsecond hfirst

theorem symm (hmarks : Marks before after) : Marks after before :=
  Eq.symm hmarks

/-- Every declaration is what it was but for the mark. -/
theorem exists_get (hmarks : Marks before after) (hget : before.get id = .ok declaration) :
    ∃ next, after.get id = .ok next ∧ next.unmarked = declaration.unmarked := by
  have hsame : (after.get id).map Declaration.unmarked = .ok declaration.unmarked := by
    rw [← get_unmarked, hmarks, get_unmarked, hget, ok_map]
  cases hafter : after.get id with
  | error fault => simp [hafter] at hsame
  | ok next => exact ⟨next, rfl, by simpa [hafter] using hsame⟩

theorem size_eq (hmarks : Marks before after) : after.size = before.size := by
  rw [← size_unmarked, hmarks, size_unmarked]

theorem closed (hmarks : Marks before after) (hclosed : before.Closed) : after.Closed := by
  rwa [← closed_unmarked, hmarks, closed_unmarked]

end Marks

/-- Marks can be set on any function of the arena. -/
theorem exists_mark {change : Func → Func}
    (hchange : ∀ state, (change state).unmarked = state.unmarked) (hid : id.number < arena.size) :
    ∃ marked, arena.modifyFunc id change = .ok marked ∧ Marks arena marked := by
  obtain ⟨marked, hmodify⟩ := exists_modifyFunc change hid
  exact ⟨marked, hmodify, unmarked_of_modifyFunc hchange hmodify⟩

/-- The function around a declaration of a closed arena can be read. -/
theorem Closed.lt_of_localTo? (hclosed : arena.Closed) (hget : arena.get id = .ok declaration)
    {outer : DeclId} (houter : declaration.localTo? = some outer) : outer.number < arena.size := by
  apply hclosed.lt_of_mem_handles hget
  unfold Declaration.localTo? at houter
  split at houter
  · next owner howner =>
    cases houter
    simp [Declaration.handles, howner, Owner.handles]
  · contradiction

theorem markOutwards_marks (outermost : DeclId) (steps : Nat) {current : Option DeclId}
    (hclosed : arena.Closed) (hcurrent : ∀ id ∈ current, id.number < arena.size) :
    ∃ marked, markOutwards outermost steps arena current = .ok marked ∧ Marks arena marked := by
  induction steps generalizing arena current with
  | zero => exact ⟨arena, rfl, .refl⟩
  | succ steps ih =>
    cases current with
    | none => exact ⟨arena, rfl, .refl⟩
    | some id =>
      have hid : id.number < arena.size := hcurrent id rfl
      obtain ⟨marked, hmark, hmarks⟩ := exists_mark
        (fun state => rfl : ∀ state : Func, { state with requiresClosure := true }.unmarked = _) hid
      simp only [markOutwards, hmark, ok_bind]
      split
      · exact ⟨marked, rfl, hmarks⟩
      · obtain ⟨declaration, hget⟩ : ∃ declaration, marked.get id = .ok declaration :=
          exists_get (by rwa [hmarks.size_eq])
        have hclosedMarked := hmarks.closed hclosed
        obtain ⟨after, hrest, hafter⟩ := ih hclosedMarked
          (fun outer houter => hclosedMarked.lt_of_localTo? hget houter)
        exact ⟨after, by rw [hget, ok_bind, hrest], hmarks.trans hafter⟩

theorem markClosures_marks (hclosed : arena.Closed) {function : DeclId} (outermost : DeclId)
    (hfunction : function.number < arena.size) :
    ∃ marked, arena.markClosures function outermost = .ok marked ∧ Marks arena marked := by
  obtain ⟨declaration, hget⟩ := exists_get hfunction
  obtain ⟨marked, hmark, hmarks⟩ := markOutwards_marks outermost (arena.size + 1) hclosed
    (fun outer houter => hclosed.lt_of_localTo? hget houter)
  exact ⟨marked, by simp [markClosures, hget, hmark], hmarks⟩

end Arena

end Declarations
