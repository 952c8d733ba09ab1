import Declarations.Proofs.Nesting.Within

/-!
# Lists of references into frames

References into frames are recorded in three lists: a variable lists the functions that refer to it,
a function those of its locals that other functions refer to, and a nested function its callers.
Adding to one of the lists leaves the others alone, and nothing that decides whether a frame is
needed, or in reach, depends on them.
-/

namespace Declarations

open Relation

section AddOnce

variable {members : List DeclId} {added id : DeclId} {condition : Prop} [Decidable condition]

theorem mem_addOnce : id ∈ addOnce members added ↔ id ∈ members ∨ id = added := by
  simp only [addOnce, List.contains_iff_mem]
  split
  · next hmem =>
    constructor
    · exact .inl
    · rintro (hold | rfl)
      · exact hold
      · exact hmem
  · simp

theorem nodup_addOnce (hnodup : members.Nodup) : (addOnce members added).Nodup := by
  simp only [addOnce, List.contains_iff_mem]
  split
  · exact hnodup
  · next hnew =>
    rw [← List.concat_eq_append]
    exact hnodup.concat hnew

theorem mem_addOnce_ite : (id ∈ if condition then addOnce members added else members) ↔
    id ∈ members ∨ condition ∧ id = added := by
  split
  · next hholds => simp [mem_addOnce, hholds]
  · next hfails => simp [hfails]

theorem nodup_addOnce_ite (hnodup : members.Nodup) :
    (if condition then addOnce members added else members).Nodup := by
  split
  · exact nodup_addOnce hnodup
  · exact hnodup

end AddOnce

/-- The lists in which references into frames are recorded. -/
inductive FrameList where
  /-- The functions that refer to a variable. -/
  | referrers
  /-- The locals of a function that other functions refer to. -/
  | captured
  /-- The functions that call a nested function. -/
  | callers
  deriving DecidableEq

/-- The last two lists of a function come after everything else that it names. -/
theorem Func.handles_eq_append (function : Func) :
    function.handles = { function with captured := [], siblingCallers := [] }.handles ++
      function.captured ++ function.siblingCallers := by
  simp [handles, effects]

namespace Declaration

/-- One of the lists of a declaration; it is empty where there is no such list. -/
def listed (list : FrameList) (declaration : Declaration) : List DeclId :=
  match list, declaration.entity with
  | .referrers, .var state => state.nestedReferences
  | .captured, .func state => state.captured
  | .callers, .func state => state.siblingCallers
  | _, _ => []

def keepsList (list : FrameList) (declaration : Declaration) : Bool :=
  match list with
  | .referrers => declaration.asVariable?.isSome
  | .captured | .callers => declaration.isFunction

def addListed (list : FrameList) (added : DeclId) (declaration : Declaration) : Declaration :=
  match list with
  | .referrers => declaration.mapVariable fun state =>
      { state with nestedReferences := addOnce state.nestedReferences added }
  | .captured => declaration.mapFunc fun state =>
      { state with captured := addOnce state.captured added }
  | .callers => declaration.mapFunc fun state =>
      { state with siblingCallers := addOnce state.siblingCallers added }

def unlisted (declaration : Declaration) : Declaration :=
  match declaration.entity with
  | .var state => { declaration with entity := .var { state with nestedReferences := [] } }
  | .func state =>
      { declaration with entity := .func { state with captured := [], siblingCallers := [] } }
  | _ => declaration

variable {declaration : Declaration} {list : FrameList} {added handle : DeclId}

theorem listed_addListed (hkeeps : declaration.keepsList list = true) (other : FrameList) :
    (declaration.addListed list added).listed other =
      if other = list then addOnce (declaration.listed other) added
      else declaration.listed other := by
  cases hentity : declaration.entity <;> cases list <;> cases other <;>
    simp_all [keepsList, asVariable?, isFunction, asFunc?, addListed, mapVariable, mapFunc, listed]

theorem unlisted_addListed :
    (declaration.addListed list added).unlisted = declaration.unlisted := by
  cases hentity : declaration.entity <;> cases list <;>
    simp [addListed, mapVariable, mapFunc, unlisted, hentity]

/-- Apart from the lists a declaration goes on to name what it names. -/
theorem mem_handles_iff : handle ∈ declaration.handles ↔
    handle ∈ declaration.unlisted.handles ∨ ∃ list, handle ∈ declaration.listed list := by
  have hlists : (∃ list, handle ∈ declaration.listed list) ↔
      handle ∈ declaration.listed .referrers ∨ handle ∈ declaration.listed .captured ∨
        handle ∈ declaration.listed .callers := by
    constructor
    · rintro ⟨list, hlist⟩
      cases list <;> simp [hlist]
    · rintro (hlist | hlist | hlist) <;> exact ⟨_, hlist⟩
  rw [hlists]
  cases hentity : declaration.entity with
  | var state =>
    simp only [handles, unlisted, listed, hentity, Entity.handles, List.mem_append,
      List.not_mem_nil]
    tauto
  | func state =>
    simp only [handles, unlisted, listed, hentity, Entity.handles, List.mem_append,
      List.not_mem_nil, false_or]
    rw [state.handles_eq_append, List.mem_append, List.mem_append]
    generalize Func.handles _ = rest
    tauto
  | _ => simp [handles, unlisted, listed, hentity]

theorem mem_handles_addListed (hkeeps : declaration.keepsList list = true)
    (hhandle : handle ∈ (declaration.addListed list added).handles) :
    handle ∈ declaration.handles ∨ handle = added := by
  rw [mem_handles_iff, unlisted_addListed] at hhandle
  rw [mem_handles_iff]
  obtain hrest | ⟨other, hother⟩ := hhandle
  · exact .inl (.inl hrest)
  · rw [listed_addListed hkeeps, mem_addOnce_ite] at hother
    obtain hold | ⟨-, hnew⟩ := hother
    · exact .inl (.inr ⟨other, hold⟩)
    · exact .inr hnew

@[simp]
theorem aggregateHandles_unlisted :
    declaration.unlisted.aggregateHandles = declaration.aggregateHandles := by
  unfold unlisted aggregateHandles
  split
  · next state hentity =>
    rw [hentity]
    cases state with | mk role => cases role <;> rfl
  · next hentity => rw [hentity]; rfl
  · rfl

/-! ## What does not depend on the lists -/

@[simp]
theorem localTo?_unlisted : declaration.unlisted.localTo? = declaration.localTo? := by
  unfold unlisted
  split <;> rfl

def hasChecker (function : DeclId) (declaration : Declaration) : Bool :=
  declaration.asFunc?.any fun state =>
    state.inChecker = some function || state.outChecker = some function

@[simp]
theorem hasChecker_unlisted {function : DeclId} :
    declaration.unlisted.hasChecker function = declaration.hasChecker function := by
  cases hentity : declaration.entity <;> simp [unlisted, hasChecker, asFunc?, hentity]

@[simp]
theorem isVariable_unlisted :
    declaration.unlisted.asVariable?.isSome = declaration.asVariable?.isSome := by
  cases hentity : declaration.entity <;> simp [unlisted, asVariable?, hentity]

@[simp]
theorem isFunction_unlisted : declaration.unlisted.isFunction = declaration.isFunction := by
  cases hentity : declaration.entity <;> simp [unlisted, isFunction, asFunc?, hentity]

end Declaration

namespace Arena

variable {arena before after : Arena} {id function owner : DeclId} {declaration : Declaration}

def listed (arena : Arena) (list : FrameList) (id : DeclId) : List DeclId :=
  match arena.get id with
  | .ok declaration => declaration.listed list
  | .error _ => []

/-- The function checks one of the contracts of `owner`, so it runs inside the frame of `owner`. -/
def ContractOf (arena : Arena) (function owner : DeclId) : Prop :=
  ∃ declaration, arena.get owner = .ok declaration ∧ declaration.hasChecker function = true

theorem listed_of_get (hget : arena.get id = .ok declaration) (list : FrameList) :
    arena.listed list id = declaration.listed list := by
  simp [listed, hget]

theorem exists_isContractOf (function : DeclId) (howner : owner.number < arena.size) :
    ∃ contract, arena.isContractOf function owner = .ok contract ∧
      (contract = true ↔ arena.ContractOf function owner) := by
  obtain ⟨declaration, hget⟩ := exists_get howner
  refine ⟨declaration.hasChecker function, ?_, ?_⟩
  · simp [isContractOf, asFunc?, hget, Declaration.hasChecker]
  · simp [ContractOf, hget]

def OnlyLists (before after : Arena) : Prop :=
  LookAlike Declaration.unlisted before after

namespace OnlyLists

theorem refl : OnlyLists arena arena :=
  LookAlike.refl arena

theorem trans {middle : Arena} (hfirst : OnlyLists before middle)
    (hsecond : OnlyLists middle after) : OnlyLists before after :=
  LookAlike.trans hfirst hsecond

/-- What does not depend on the lists is as it was. -/
theorem exists_get_iff {α : Type} {observe : Declaration → α} (honly : OnlyLists before after)
    (hobserve : ∀ declaration : Declaration, observe declaration.unlisted = observe declaration)
    (id : DeclId) (value : α) :
    (∃ declaration, after.get id = .ok declaration ∧ observe declaration = value) ↔
      ∃ declaration, before.get id = .ok declaration ∧ observe declaration = value :=
  LookAlike.exists_get_iff honly observe hobserve id value

theorem localTo_eq (honly : OnlyLists before after) : after.LocalTo = before.LocalTo := by
  funext inner outer
  apply propext
  exact honly.exists_get_iff (fun _ => Declaration.localTo?_unlisted) inner (some outer)

theorem within_eq (honly : OnlyLists before after) : after.Within = before.Within := by
  funext function owner
  rw [Within, Within, honly.localTo_eq]

theorem contractOf_eq (honly : OnlyLists before after) : after.ContractOf = before.ContractOf := by
  funext function owner
  apply propext
  exact honly.exists_get_iff (fun _ => Declaration.hasChecker_unlisted) owner true

theorem isVariable_iff (honly : OnlyLists before after) :
    after.IsVariable id ↔ before.IsVariable id :=
  honly.exists_get_iff (fun _ => Declaration.isVariable_unlisted) id true

theorem isFunction_iff (honly : OnlyLists before after) :
    after.IsFunction id ↔ before.IsFunction id :=
  honly.exists_get_iff (fun _ => Declaration.isFunction_unlisted) id true

theorem lt_iff (honly : OnlyLists before after) :
    id.number < after.size ↔ id.number < before.size :=
  LookAlike.lt_iff honly

end OnlyLists

/-- A member can be added to a list of any declaration that has one, and no other list changes. -/
theorem exists_addListed (list : FrameList) (hclosed : before.Closed)
    (hget : before.get id = .ok declaration) (hkeeps : declaration.keepsList list = true)
    {added : DeclId} (hadded : added.number < before.size) :
    ∃ after, before.modify id (Declaration.addListed list added) = .ok after ∧ after.Closed ∧
      OnlyLists before after ∧ ∀ other holder, after.listed other holder =
        if other = list ∧ holder = id then addOnce (before.listed other holder) added
        else before.listed other holder := by
  obtain ⟨after, hmodify⟩ := exists_modify (Declaration.addListed list added) (lt_of_get hget)
  have hafter := get_of_modify hmodify
  refine ⟨after, hmodify, ?_, ?_, ?_⟩
  · apply closed_of_modify hclosed hget _ _ hmodify
    · intro handle hhandle
      obtain hold | rfl := Declaration.mem_handles_addListed hkeeps hhandle
      · exact hclosed.lt_of_mem_handles hget hold
      · exact hadded
    · rw [← Declaration.aggregateHandles_unlisted, Declaration.unlisted_addListed,
        Declaration.aggregateHandles_unlisted]
  · exact map_get_of_change hafter fun _ => Declaration.unlisted_addListed
  · intro other holder
    by_cases hholder : holder = id
    · subst hholder
      have hself : after.get holder = .ok (declaration.addListed list added) := by
        rw [hafter, if_pos rfl, hget, ok_map]
      rw [listed_of_get hself, listed_of_get hget, Declaration.listed_addListed hkeeps]
      simp
    · simp [listed, hafter, hholder]

end Arena

end Declarations
