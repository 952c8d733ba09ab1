import Declarations.Proofs.Arena.Closed

/-!
# Changes of declarations

Most analyses change a declaration in place: they add to the body of a function, or mark it.  Such a
change leaves alone the other declarations and which function a name stands for, and an arena stays
closed if the changed declaration names nothing outside it.
-/

namespace Declarations

namespace Declaration

variable {declaration : Declaration} {state : Func} {change : Func → Func}

theorem mapFunc_of_asFunc? (hfunc : declaration.asFunc? = some state) :
    declaration.mapFunc change = { declaration with entity := .func (change state) } := by
  unfold asFunc? at hfunc
  unfold mapFunc
  split <;> simp_all

theorem mapFunc_of_asFunc?_eq_none (hfunc : declaration.asFunc? = none) :
    declaration.mapFunc change = declaration := by
  unfold asFunc? at hfunc
  unfold mapFunc
  split <;> simp_all

@[simp]
theorem asFunc?_mapFunc :
    (declaration.mapFunc change).asFunc? = declaration.asFunc?.map change := by
  cases hfunc : declaration.asFunc? with
  | none => rw [mapFunc_of_asFunc?_eq_none hfunc, hfunc, Option.map_none]
  | some state => rw [mapFunc_of_asFunc? hfunc]; rfl

@[simp]
theorem isFunction_mapFunc : (declaration.mapFunc change).isFunction = declaration.isFunction := by
  simp [isFunction]

/-- Two changes one after the other are one change. -/
theorem mapFunc_mapFunc {later : Func → Func} :
    (declaration.mapFunc change).mapFunc later =
      declaration.mapFunc fun state => later (change state) := by
  cases hfunc : declaration.asFunc? with
  | none => simp only [mapFunc_of_asFunc?_eq_none hfunc]
  | some state =>
    have hchanged : (declaration.mapFunc change).asFunc? = some (change state) := by
      rw [asFunc?_mapFunc, hfunc, Option.map_some]
    rw [mapFunc_of_asFunc? hchanged, mapFunc_of_asFunc? hfunc, mapFunc_of_asFunc? hfunc]

@[simp]
theorem storage_mapFunc : (declaration.mapFunc change).storage = declaration.storage := by
  unfold mapFunc
  split <;> rfl

@[simp]
theorem asVariable?_mapFunc :
    (declaration.mapFunc change).asVariable? = declaration.asVariable? := by
  cases hfunc : declaration.asFunc? with
  | none => rw [mapFunc_of_asFunc?_eq_none hfunc]
  | some state =>
    rw [mapFunc_of_asFunc? hfunc]
    simp only [asVariable?, entity_of_asFunc? hfunc]

@[simp]
theorem aggregateHandles_mapFunc :
    (declaration.mapFunc change).aggregateHandles = declaration.aggregateHandles := by
  cases hfunc : declaration.asFunc? with
  | none => rw [mapFunc_of_asFunc?_eq_none hfunc]
  | some state =>
    rw [mapFunc_of_asFunc? hfunc]
    simp only [aggregateHandles, entity_of_asFunc? hfunc]
    rfl

@[simp]
theorem asVariable?_mapVariable {change : Variable → Variable} :
    (declaration.mapVariable change).asVariable? = declaration.asVariable?.map change := by
  cases hentity : declaration.entity <;> simp [mapVariable, asVariable?, hentity]

theorem aliasedFunction?_mapFunc (hrole : ∀ state, (change state).role = state.role) :
    (declaration.mapFunc change).aliasedFunction? = declaration.aliasedFunction? := by
  cases hfunc : declaration.asFunc? with
  | none => rw [mapFunc_of_asFunc?_eq_none hfunc]
  | some state =>
    rw [mapFunc_of_asFunc? hfunc]
    simp only [aliasedFunction?, entity_of_asFunc? hfunc, hrole]

@[simp]
theorem localTo?_mapFunc : (declaration.mapFunc change).localTo? = declaration.localTo? := by
  unfold mapFunc
  split <;> rfl

theorem handles_mapFunc (hhandles : ∀ state, (change state).handles = state.handles) :
    (declaration.mapFunc change).handles = declaration.handles := by
  cases hfunc : declaration.asFunc? with
  | none => rw [mapFunc_of_asFunc?_eq_none hfunc]
  | some state =>
    rw [mapFunc_of_asFunc? hfunc]
    simp only [handles, entity_of_asFunc? hfunc, Entity.handles, hhandles]

/-- Whether a function has an object depends on its role, and on where it stands. -/
theorem objectOf?_mapFunc (hrole : ∀ state, (change state).role = state.role) :
    (declaration.mapFunc change).objectOf? = declaration.objectOf? := by
  cases hfunc : declaration.asFunc? with
  | none => rw [mapFunc_of_asFunc?_eq_none hfunc]
  | some state =>
    rw [mapFunc_of_asFunc? hfunc]
    simp only [objectOf?, entity_of_asFunc? hfunc, hrole]
    rfl

end Declaration

namespace Arena

variable {before after : Arena} {id : DeclId} {declaration : Declaration}

/-- Which function a name stands for is settled by the function aliases of the arena. -/
theorem aliasedFunction_congr {left right : Arena} (hsize : left.size = right.size)
    (hnames : ∀ id, (left.get id).map Declaration.aliasedFunction? =
      (right.get id).map Declaration.aliasedFunction?) (id : DeclId) :
    left.aliasedFunction id = right.aliasedFunction id := by
  have hfollow : ∀ (steps : Nat) (current : DeclId),
      left.followFunctionAliases id steps current =
        right.followFunctionAliases id steps current := by
    intro steps
    induction steps with
    | zero => intro current; rfl
    | succ steps ih =>
      intro current
      have hname := hnames current
      simp only [followFunctionAliases]
      cases hleft : left.get current <;> cases hright : right.get current <;>
        simp only [hleft, hright, ok_map, error_map, reduceCtorEq, Except.ok.injEq,
          Except.error.injEq] at hname
      · simp [hname]
      · simp [hname, ih]
  rw [aliasedFunction, aliasedFunction, hsize, hfollow]

/-- A declaration that is no other name for a function stands for itself. -/
theorem aliasedFunction_of_eq_none (hget : before.get id = .ok declaration)
    (halias : declaration.aliasedFunction? = none) : before.aliasedFunction id = .ok id := by
  obtain ⟨steps, hsteps⟩ := Nat.exists_eq_succ_of_ne_zero (Nat.ne_zero_of_lt (lt_of_get hget))
  rw [aliasedFunction, hsteps]
  simp only [Arena.followFunctionAliases, hget, ok_bind, halias, pure_eq_ok]

/-- Whether an effect breaks an attribute by itself depends on which declarations are constants and
on the state of variables. -/
theorem breaksDirectly_congr {left right : Arena}
    (hconstants : ∀ id, (left.get id).map (·.storage.meets {.immutable, .manifest}) =
      (right.get id).map (·.storage.meets {.immutable, .manifest}))
    (hvariables : ∀ id, left.asVariable? id = right.asVariable? id) (wanted : Attribute)
    (effect : Effect) : left.breaksDirectly wanted effect = right.breaksDirectly wanted effect := by
  cases effect with
  | globalAccess accessed writes span =>
    have haccessed := hconstants accessed
    cases hleft : left.get accessed <;> cases hright : right.get accessed <;>
      simp only [hleft, hright, ok_map, error_map, reduceCtorEq, Except.ok.injEq,
        Except.error.injEq] at haccessed <;>
      cases wanted <;> simp [breaksDirectly, hleft, hright, haccessed]
  | fieldAccess field span => cases wanted <;> simp [breaksDirectly, hvariables]
  | _ => cases wanted <;> rfl

theorem exists_modify (change : Declaration → Declaration) (hid : id.number < before.size) :
    ∃ after, before.modify id change = .ok after := by
  simp [modify, hid]

theorem lt_of_modify {change : Declaration → Declaration}
    (hmodify : before.modify id change = .ok after) : id.number < before.size := by
  apply modify_isOk_iff.mp
  rw [hmodify]
  rfl

theorem aggregates_of_modify {change : Declaration → Declaration}
    (hmodify : before.modify id change = .ok after) : after.aggregates = before.aggregates := by
  simp only [modify, lt_of_modify hmodify, if_true, Except.ok.injEq] at hmodify
  rw [← hmodify]

theorem nextSequence_of_modify {change : Declaration → Declaration}
    (hmodify : before.modify id change = .ok after) :
    after.nextSequence = before.nextSequence := by
  simp only [modify, lt_of_modify hmodify, if_true, Except.ok.injEq] at hmodify
  rw [← hmodify]

/-- What a change of one declaration does not touch is the same for all declarations. -/
theorem map_get_of_change {α : Type} {observe : Declaration → α}
    {change : Declaration → Declaration}
    (hget : ∀ other, after.get other =
      if other = id then (before.get other).map change else before.get other)
    (hchange : ∀ declaration, observe (change declaration) = observe declaration)
    (other : DeclId) : (after.get other).map observe = (before.get other).map observe := by
  rw [hget]
  split
  · cases before.get other with
    | error fault => rfl
    | ok declaration => simp [hchange]
  · rfl

/-- A change of one declaration that looks the same afterwards. -/
theorem map_modify_of_look_eq {α : Type} {look : Declaration → α}
    {change : Declaration → Declaration} {declarations : Array Declaration} {place : Nat}
    (hlook : ∀ declaration, declarations[place]? = some declaration →
      look (change declaration) = look declaration) :
    (declarations.modify place change).map look = declarations.map look := by
  apply Array.ext_getElem?
  intro other
  simp only [Array.getElem?_map, Array.getElem?_modify]
  split
  · next hplace =>
    rw [← hplace]
    cases hdeclaration : declarations[place]? with
    | none => rfl
    | some declaration => simp [hlook declaration hdeclaration]
  · rfl

/-- An arena is known when its declarations, its aggregates and its next number are. -/
theorem eq_of_get (hget : ∀ id, after.get id = before.get id)
    (haggregates : after.aggregates = before.aggregates)
    (hnext : after.nextSequence = before.nextSequence) : after = before := by
  have hdeclarations : after.declarations = before.declarations := by
    apply Array.ext_getElem?
    intro number
    have hsame := hget ⟨number⟩
    simp only [Arena.get] at hsame
    split at hsame <;> split at hsame <;> simp_all
  cases after
  cases before
  simp_all

/-- A change that does nothing to its declaration leaves the arena as it was. -/
theorem eq_of_modify {change : Declaration → Declaration}
    (hfixed : ∀ declaration, before.get id = .ok declaration → change declaration = declaration)
    (hmodify : before.modify id change = .ok after) : after = before := by
  have hget : ∀ other, after.get other = before.get other := by
    intro other
    rw [get_of_modify hmodify]
    split
    · next hsame =>
      obtain ⟨declaration, hread⟩ := exists_get (lt_of_modify hmodify)
      rw [hsame, hread, ok_map, hfixed declaration hread]
    · rfl
  exact eq_of_get hget (aggregates_of_modify hmodify) (nextSequence_of_modify hmodify)

/-- The declarations of two arenas look the same, each in its place. -/
def LookAlike {α : Type} (look : Declaration → α) (before after : Arena) : Prop :=
  ∀ id, (after.get id).map look = (before.get id).map look

namespace LookAlike

variable {α β : Type} {look : Declaration → α}

theorem refl (arena : Arena) : LookAlike look arena arena :=
  fun _ => rfl

theorem trans {middle : Arena} (hfirst : LookAlike look before middle)
    (hsecond : LookAlike look middle after) : LookAlike look before after :=
  fun id => (hsecond id).trans (hfirst id)

/-- What can be told from how declarations look holds of both arenas or of none. -/
theorem exists_get_iff {observe : Declaration → β} (halike : LookAlike look before after)
    (tell : α → β) (htell : ∀ declaration, tell (look declaration) = observe declaration)
    (id : DeclId) (value : β) :
    (∃ declaration, after.get id = .ok declaration ∧ observe declaration = value) ↔
      ∃ declaration, before.get id = .ok declaration ∧ observe declaration = value := by
  have hsame := halike id
  cases hafter : after.get id <;> cases hbefore : before.get id <;>
    simp only [hafter, hbefore, ok_map, error_map, reduceCtorEq, Except.ok.injEq] at hsame
  · simp
  · next next declaration =>
    have hvalue : observe next = observe declaration := by
      rw [← htell next, hsame, htell declaration]
    simp [hvalue]

theorem lt_iff (halike : LookAlike look before after) :
    id.number < after.size ↔ id.number < before.size := by
  rw [← get_isOk_iff, ← get_isOk_iff]
  have hsame := halike id
  cases hafter : after.get id <;> cases hbefore : before.get id <;>
    simp only [hafter, hbefore, ok_map, error_map, reduceCtorEq] at hsame <;> rfl

theorem size_eq (halike : LookAlike look before after) : after.size = before.size := by
  have hlt : ∀ id : DeclId, id.number < after.size ↔ id.number < before.size :=
    fun id => halike.lt_iff
  have hbefore : before.size < after.size ↔ before.size < before.size := hlt ⟨before.size⟩
  have hafter : after.size < after.size ↔ after.size < before.size := hlt ⟨after.size⟩
  omega

end LookAlike

/-- An arena stays closed when the changed declaration names nothing outside it. -/
theorem closed_of_modify {change : Declaration → Declaration} (hclosed : before.Closed)
    (hget : before.get id = .ok declaration)
    (hhandles : ∀ handle ∈ (change declaration).handles, handle.number < before.size)
    (haggregates : (change declaration).aggregateHandles = declaration.aggregateHandles)
    (hmodify : before.modify id change = .ok after) : after.Closed := by
  have hsize := size_of_modify hmodify
  have haggregateArray := aggregates_of_modify hmodify
  have hmem : ∀ found ∈ after.declarations.toList,
      found = change declaration ∨ found ∈ before.declarations.toList := by
    intro found hfound
    obtain ⟨number, hnumber⟩ := List.mem_iff_getElem?.mp hfound
    have hread : after.get ⟨number⟩ = .ok found := by simpa [get_eq_ok_iff] using hnumber
    rw [get_of_modify hmodify] at hread
    split at hread
    · next hsame =>
      rw [hsame, hget, ok_map, Except.ok.injEq] at hread
      exact .inl hread.symm
    · exact .inr (mem_of_get hread)
  refine ⟨?_, ?_, ?_⟩
  · intro found hfound
    rw [hsize]
    obtain rfl | hold := hmem found hfound
    · exact hhandles
    · exact hclosed.handles_lt found hold
  · intro found hfound
    rw [haggregateArray]
    obtain rfl | hold := hmem found hfound
    · rw [haggregates]
      exact hclosed.aggregateHandles_lt declaration (mem_of_get hget)
    · exact hclosed.aggregateHandles_lt found hold
  · rw [haggregateArray, hsize]
    exact hclosed.fields_lt

/-! ## Changes of the state of one function -/

variable {change : Func → Func}

theorem exists_modifyFunc (change : Func → Func) (hid : id.number < before.size) :
    ∃ after, before.modifyFunc id change = .ok after :=
  exists_modify _ hid

theorem size_of_modifyFunc (hmodify : before.modifyFunc id change = .ok after) :
    after.size = before.size :=
  size_of_modify hmodify

theorem get_of_modifyFunc (hmodify : before.modifyFunc id change = .ok after) (other : DeclId) :
    after.get other =
      if other = id then (before.get other).map fun declaration => declaration.mapFunc change
      else before.get other :=
  get_of_modify hmodify other

/-- The change is seen in the state of its function alone. -/
theorem asFunc?_of_modifyFunc (hmodify : before.modifyFunc id change = .ok after)
    (other : DeclId) :
    after.asFunc? other =
      if other = id then (before.asFunc? other).map (Option.map change)
      else before.asFunc? other := by
  simp only [asFunc?, get_of_modifyFunc hmodify]
  split
  · cases before.get other <;> simp
  · rfl

theorem asFunc?_self_of_modifyFunc {state : Func}
    (hmodify : before.modifyFunc id change = .ok after)
    (hstate : before.asFunc? id = .ok (some state)) :
    after.asFunc? id = .ok (some (change state)) := by
  rw [asFunc?_of_modifyFunc hmodify, if_pos rfl, hstate, ok_map, Option.map_some]

/-- A change that does nothing to the state of its function leaves the arena as it was. -/
theorem eq_of_modifyFunc
    (hfixed : ∀ state, before.asFunc? id = .ok (some state) → change state = state)
    (hmodify : before.modifyFunc id change = .ok after) : after = before := by
  refine eq_of_modify (fun declaration hget => ?_) hmodify
  cases hfunc : declaration.asFunc? with
  | none => exact Declaration.mapFunc_of_asFunc?_eq_none hfunc
  | some state =>
    have hstate : before.asFunc? id = .ok (some state) := by simp [asFunc?, hget, hfunc]
    rw [Declaration.mapFunc_of_asFunc? hfunc, hfixed state hstate,
      ← Declaration.entity_of_asFunc? hfunc]

/-- A declaration is what it was, or the change of that. -/
theorem exists_get_of_modifyFunc (hmodify : before.modifyFunc id change = .ok after)
    {other : DeclId} (hget : after.get other = .ok declaration) :
    ∃ earlier, before.get other = .ok earlier ∧
      (declaration = earlier ∨ declaration = earlier.mapFunc change) := by
  rw [get_of_modifyFunc hmodify] at hget
  split at hget
  · cases hearlier : before.get other with
    | error fault => simp [hearlier] at hget
    | ok earlier => exact ⟨earlier, rfl, .inr (by simpa [hearlier, eq_comm] using hget)⟩
  · exact ⟨declaration, hget, .inl rfl⟩

theorem aliasedFunction_of_modifyFunc (hrole : ∀ state, (change state).role = state.role)
    (hmodify : before.modifyFunc id change = .ok after) (other : DeclId) :
    after.aliasedFunction other = before.aliasedFunction other := by
  apply aliasedFunction_congr (size_of_modifyFunc hmodify)
  intro current
  rw [get_of_modifyFunc hmodify]
  split
  · cases before.get current with
    | error fault => rfl
    | ok found => simp [Declaration.aliasedFunction?_mapFunc hrole]
  · rfl

/-- Whether an effect breaks an attribute by itself depends on no function's state. -/
theorem breaksDirectly_of_modifyFunc (hmodify : before.modifyFunc id change = .ok after)
    (wanted : Attribute) (effect : Effect) :
    after.breaksDirectly wanted effect = before.breaksDirectly wanted effect := by
  apply breaksDirectly_congr
  · intro accessed
    rw [get_of_modifyFunc hmodify]
    split
    · cases before.get accessed <;> simp
    · rfl
  · intro field
    simp only [asVariable?, get_of_modifyFunc hmodify]
    split
    · cases before.get field <;> simp
    · rfl

end Arena

end Declarations
