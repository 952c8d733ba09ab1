import Declarations.Arena.Lemmas
import Declarations.Inference.Status
import Declarations.Proofs.Answer
import Mathlib.Data.List.Nodup
import Mathlib.Data.List.Perm.Subperm

/-!
# Closed arenas

An arena is closed when every handle that one of its declarations or aggregates holds leads to a
declaration or an aggregate of the same arena.  Walks over a closed arena never leave it, so they
meet no missing declaration.  An initializer may name fields as well; those names are left out,
because nothing follows them.
-/

namespace Declarations

/-- There are no more different handles below a bound than the bound says. -/
theorem DeclId.length_le_of_nodup {ids : List DeclId} {bound : Nat} (hnodup : ids.Nodup)
    (hbound : ∀ id ∈ ids, id.number < bound) : ids.length ≤ bound := by
  have hnumbers : (ids.map DeclId.number).Nodup := by
    apply List.Nodup.map _ hnodup
    rintro ⟨left⟩ ⟨right⟩ rfl
    rfl
  have hsubset : ids.map DeclId.number ⊆ List.range bound := by
    intro number hnumber
    obtain ⟨id, hid, rfl⟩ := List.mem_map.mp hnumber
    exact List.mem_range.mpr (hbound id hid)
  simpa using (List.subperm_of_subset hnumbers hsubset).length_le

def Effect.handles : Effect → List DeclId
  | .call callee _ => [callee]
  | .globalAccess accessed _ _ => [accessed]
  | .fieldAccess field _ => [field]
  | .indirectCall _ _ | .unsafeOperation _ | .throwing _ | .gcAllocation _
  | .closureAllocation _ => []

def FuncRole.handles : FuncRole → List DeclId
  | .aliasTo target _ => [target]
  | _ => []

def Func.handles (function : Func) : List DeclId :=
  function.role.handles ++ function.effects.flatMap Effect.handles ++
    function.inChecker.toList ++ function.outChecker.toList ++ function.resultVariable.toList ++
    function.next.toList ++ function.overrides ++ function.locals.entries.map Prod.snd ++
    function.labels.entries.filterMap (fun entry => entry.2.lastVariable) ++
    function.pendingJumps.filterMap PendingJump.lastVariable ++ function.thisVariable.toList ++
    function.argumentTypes.toList ++ function.argumentPointer.toList ++ function.captured ++
    function.siblingCallers

def TupleElement.handles : TupleElement → List DeclId
  | .declaration id => [id]
  | .type _ | .expression _ => []

def Entity.handles : Entity → List DeclId
  | .tuple state => state.elements.flatMap TupleElement.handles
  | .aliasing state => state.target.toList ++ state.next.toList
  | .anchor state => state.target.toList ++ state.next.toList
  | .var state => state.previous.toList ++ state.nestedReferences ++ state.standsFor.toList
  | .func state => state.handles

def Owner.handles : Owner → List DeclId
  | .function id => [id]
  | .topLevel | .aggregate _ => []

def Owner.aggregateHandles : Owner → List AggregateId
  | .aggregate id => [id]
  | .topLevel | .function _ => []

def Entity.aggregateHandles : Entity → List AggregateId
  | .var { role := .initialData aggregate, .. } => [aggregate]
  | _ => []

namespace Declaration

/-- The declarations that a declaration names. -/
def handles (declaration : Declaration) : List DeclId :=
  declaration.owner.handles ++ declaration.entity.handles

def aggregateHandles (declaration : Declaration) : List AggregateId :=
  declaration.owner.aggregateHandles ++ declaration.entity.aggregateHandles

theorem entity_of_asFunc? {declaration : Declaration} {state : Func}
    (hfunc : declaration.asFunc? = some state) : declaration.entity = .func state := by
  unfold asFunc? at hfunc
  split at hfunc <;> simp_all

theorem entity_of_asVariable? {declaration : Declaration} {state : Variable}
    (hvariable : declaration.asVariable? = some state) : declaration.entity = .var state := by
  unfold asVariable? at hvariable
  split at hvariable <;> simp_all

theorem entity_of_asTuple? {declaration : Declaration} {state : Tuple}
    (htuple : declaration.asTuple? = some state) : declaration.entity = .tuple state := by
  unfold asTuple? at htuple
  split at htuple <;> simp_all

end Declaration

namespace Arena

/-- Every handle in the arena leads to a declaration or an aggregate of the arena. -/
structure Closed (arena : Arena) : Prop where
  handles_lt : ∀ declaration ∈ arena.declarations.toList,
    ∀ handle ∈ declaration.handles, handle.number < arena.size
  aggregateHandles_lt : ∀ declaration ∈ arena.declarations.toList,
    ∀ handle ∈ declaration.aggregateHandles, handle.number < arena.aggregates.size
  fields_lt : ∀ aggregate ∈ arena.aggregates.toList,
    ∀ field ∈ aggregate.fields, field.number < arena.size

theorem closed_iff {arena : Arena} : arena.Closed ↔
    (∀ declaration ∈ arena.declarations.toList,
      ∀ handle ∈ declaration.handles, handle.number < arena.size) ∧
    (∀ declaration ∈ arena.declarations.toList,
      ∀ handle ∈ declaration.aggregateHandles, handle.number < arena.aggregates.size) ∧
    ∀ aggregate ∈ arena.aggregates.toList,
      ∀ field ∈ aggregate.fields, field.number < arena.size :=
  ⟨fun hclosed => ⟨hclosed.1, hclosed.2, hclosed.3⟩, fun ⟨hfirst, hsecond, hthird⟩ =>
    ⟨hfirst, hsecond, hthird⟩⟩

instance (arena : Arena) : Decidable arena.Closed :=
  decidable_of_iff _ closed_iff.symm

variable {arena : Arena} {id : DeclId} {declaration : Declaration}

/-- A handle below the size of the arena can be read. -/
theorem exists_get (hid : id.number < arena.size) :
    ∃ declaration, arena.get id = .ok declaration :=
  ⟨arena.declarations[id.number], get_eq_ok_iff.mpr (Array.getElem?_eq_getElem hid)⟩

theorem lt_of_get (hget : arena.get id = .ok declaration) : id.number < arena.size :=
  get_isOk_iff.mp (by rw [hget]; rfl)

theorem get_of_size_le (hid : arena.size ≤ id.number) :
    arena.get id = .error (.noDeclaration id) := by
  have hnone : arena.declarations[id.number]? = none := Array.getElem?_eq_none hid
  simp [get, hnone]

theorem mem_of_get (hget : arena.get id = .ok declaration) :
    declaration ∈ arena.declarations.toList :=
  Array.mem_toList_iff.mpr (Array.mem_of_getElem? (get_eq_ok_iff.mp hget))

theorem mem_of_aggregate {owner : AggregateId} {aggregate : Aggregate}
    (howner : arena.aggregate owner = .ok aggregate) : aggregate ∈ arena.aggregates.toList := by
  rw [Arena.aggregate] at howner
  split at howner
  · next hfound =>
    rw [← Except.ok.inj howner]
    exact Array.mem_toList_iff.mpr (Array.mem_of_getElem? hfound)
  · contradiction

def IsFunction (arena : Arena) (id : DeclId) : Prop :=
  ∃ declaration, arena.get id = .ok declaration ∧ declaration.isFunction = true

theorem IsFunction.lt (hfunction : arena.IsFunction id) : id.number < arena.size := by
  obtain ⟨declaration, hget, -⟩ := hfunction
  exact lt_of_get hget

theorem isFunction_iff_of_get (hget : arena.get id = .ok declaration) :
    arena.IsFunction id ↔ declaration.isFunction = true := by
  simp [IsFunction, hget]

def IsVariable (arena : Arena) (id : DeclId) : Prop :=
  ∃ declaration, arena.get id = .ok declaration ∧ declaration.asVariable?.isSome = true

namespace Closed

/-- A handle that a declaration of a closed arena names can be read. -/
theorem lt_of_mem_handles (hclosed : arena.Closed) (hget : arena.get id = .ok declaration)
    {handle : DeclId} (hhandle : handle ∈ declaration.handles) : handle.number < arena.size :=
  hclosed.handles_lt declaration (mem_of_get hget) handle hhandle

end Closed

/-- The function that a function alias names is one of its handles. -/
theorem mem_handles_of_aliasedFunction? {target : DeclId}
    (htarget : declaration.aliasedFunction? = some target) : target ∈ declaration.handles := by
  obtain ⟨state, hentity, hrole⟩ : ∃ state, declaration.entity = .func state ∧
      target ∈ state.role.handles := by
    simp only [Declaration.aliasedFunction?] at htarget
    split at htarget
    · next state hentity =>
      refine ⟨state, hentity, ?_⟩
      split at htarget
      · next hrole => simpa [hrole, FuncRole.handles, eq_comm] using htarget
      · contradiction
    · contradiction
  simp [Declaration.handles, hentity, Entity.handles, Func.handles, hrole]

/-- Following function aliases through a closed arena ends at a declaration of the arena. -/
theorem Closed.followFunctionAliases (hclosed : arena.Closed) (start : DeclId) (steps : Nat)
    {current : DeclId} (hcurrent : current.number < arena.size) :
    ∃ function, arena.followFunctionAliases start steps current = .ok function ∧
      function.number < arena.size := by
  induction steps generalizing current with
  | zero => exact ⟨current, rfl, hcurrent⟩
  | succ steps ih =>
    obtain ⟨declaration, hget⟩ := exists_get hcurrent
    simp only [Arena.followFunctionAliases, hget, ok_bind]
    split
    · next target htarget =>
      split
      · exact ⟨current, rfl, hcurrent⟩
      · exact ih (hclosed.lt_of_mem_handles hget (mem_handles_of_aliasedFunction? htarget))
    · exact ⟨current, rfl, hcurrent⟩

/-- In a closed arena every handle stands for some function, or for itself. -/
theorem Closed.aliasedFunction (hclosed : arena.Closed) (hid : id.number < arena.size) :
    ∃ function, arena.aliasedFunction id = .ok function ∧ function.number < arena.size :=
  hclosed.followFunctionAliases id arena.size hid

/-- Whether an effect breaks an attribute can be said when its handles can be read. -/
theorem exists_breaksDirectly (wanted : Attribute) {effect : Effect}
    (heffect : ∀ handle ∈ effect.handles, handle.number < arena.size) :
    ∃ broken, arena.breaksDirectly wanted effect = .ok broken := by
  cases effect with
  | globalAccess accessed writes span =>
    obtain ⟨declaration, hget⟩ := exists_get (heffect accessed (by simp [Effect.handles]))
    cases wanted <;> simp [breaksDirectly, hget]
  | fieldAccess field span =>
    obtain ⟨declaration, hget⟩ := exists_get (heffect field (by simp [Effect.handles]))
    cases wanted <;> simp [breaksDirectly, asVariable?, hget]
  | _ => cases wanted <;> simp [breaksDirectly]

/-- The handles of the effects of a function are handles of its declaration. -/
theorem mem_handles_of_effect {state : Func} (hfunc : declaration.asFunc? = some state)
    {effect : Effect} (heffect : effect ∈ state.effects) {handle : DeclId}
    (hhandle : handle ∈ effect.handles) : handle ∈ declaration.handles := by
  have hmem : handle ∈ state.effects.flatMap Effect.handles :=
    List.mem_flatMap.mpr ⟨effect, heffect, hhandle⟩
  simp [Declaration.handles, Declaration.entity_of_asFunc? hfunc, Entity.handles, Func.handles,
    hmem]

end Arena

end Declarations
