import Declarations.Proofs.Inference.Entitlement
import Declarations.Proofs.Overload.Candidates

/-!
# Functions with other parameters

Whether a function has an attribute is a matter of its storage class and its body.  Its parameters
have no part in that, nor in what it is another name for.  So a function can be given other
parameters, and all functions have the attributes that they had before.
-/

namespace Declarations

def Func.withParameters (function : Func) (parameters : List Parameter) : Func :=
  { function with parameters }

namespace Declaration

variable {declaration : Declaration} {parameters : List Parameter}

/-- Whether a function needs a frame depends on its role, and on where it stands. -/
theorem needsFrame_eq (declaration : Declaration) : declaration.needsFrame =
    match declaration.asFunc?.map Func.role with
    | some (.literal word) => word ≠ .function && declaration.objectOf?.isNone
    | some _ => !declaration.storage.contains .static && declaration.linkage = .d &&
        declaration.localTo?.isSome
    | none => false := by
  cases hfunc : declaration.asFunc? with
  | none =>
    unfold asFunc? at hfunc
    unfold needsFrame
    split at hfunc <;> simp_all
  | some state =>
    rw [needsFrame, entity_of_asFunc? hfunc, Option.map_some]
    clear hfunc
    obtain ⟨role⟩ := state
    cases role <;> rfl

def withParameters (declaration : Declaration) (parameters : List Parameter) : Declaration :=
  declaration.mapFunc (·.withParameters parameters)

@[simp]
theorem storage_withParameters :
    (declaration.withParameters parameters).storage = declaration.storage :=
  storage_mapFunc

theorem asFunc?_withParameters : (declaration.withParameters parameters).asFunc? =
    declaration.asFunc?.map (·.withParameters parameters) :=
  asFunc?_mapFunc

@[simp]
theorem aliasedFunction?_withParameters :
    (declaration.withParameters parameters).aliasedFunction? = declaration.aliasedFunction? :=
  aliasedFunction?_mapFunc fun _ => rfl

@[simp]
theorem objectOf?_withParameters :
    (declaration.withParameters parameters).objectOf? = declaration.objectOf? :=
  objectOf?_mapFunc fun _ => rfl

@[simp]
theorem needsFrame_withParameters :
    (declaration.withParameters parameters).needsFrame = declaration.needsFrame := by
  rw [needsFrame_eq, needsFrame_eq, objectOf?_withParameters, asFunc?_withParameters,
    storage_withParameters, Option.map_map]
  have hplace : (declaration.withParameters parameters).localTo? = declaration.localTo? :=
    localTo?_mapFunc
  have hlinkage : (declaration.withParameters parameters).linkage = declaration.linkage := by
    unfold withParameters mapFunc
    split <;> rfl
  rw [hplace, hlinkage]
  rfl

theorem handles_withParameters :
    (declaration.withParameters parameters).handles = declaration.handles :=
  handles_mapFunc fun _ => rfl

theorem status_withParameters (config : Config) (wanted : Attribute) :
    (declaration.withParameters parameters).status config wanted =
      declaration.status config wanted :=
  status_mapFunc (fun _ => rfl) (fun _ => rfl) (fun _ => rfl) fun _ _ => rfl

end Declaration

namespace Arena

def parametersOf (arena : Arena) (id : DeclId) : List Parameter :=
  match arena.get id with
  | .ok declaration => (declaration.asFunc?.map Func.parameters).getD []
  | .error _ => []

def withParameters (arena : Arena) (function : DeclId) (parameters : List Parameter) :
    Except Fault Arena :=
  arena.modify function (·.withParameters parameters)

variable {before after : Arena} {target id : DeclId} {parameters : List Parameter}
variable {config : Config} {wanted : Attribute}

theorem exists_withParameters (hclosed : before.Closed) (htarget : target.number < before.size)
    (parameters : List Parameter) :
    ∃ after, before.withParameters target parameters = .ok after ∧ after.Closed := by
  obtain ⟨declaration, hget⟩ := exists_get htarget
  obtain ⟨after, hchange⟩ := exists_modify (·.withParameters parameters) htarget
  refine ⟨after, hchange, closed_of_modify hclosed hget ?_ ?_ hchange⟩
  · intro handle hhandle
    rw [Declaration.handles_withParameters] at hhandle
    exact hclosed.lt_of_mem_handles hget hhandle
  · exact Declaration.aggregateHandles_mapFunc

section Change

variable (hchange : before.withParameters target parameters = .ok after)
include hchange

/-- What does not depend on parameters is what it was. -/
theorem lookAlike_withParameters {α : Type} {look : Declaration → α}
    (hlook : ∀ declaration : Declaration,
      look (declaration.withParameters parameters) = look declaration) :
    LookAlike look before after :=
  map_get_of_change (get_of_modify hchange) hlook

theorem size_of_withParameters : after.size = before.size :=
  size_of_modify hchange

theorem parametersOf_of_withParameters {declaration : Declaration}
    (hget : before.get target = .ok declaration) (hfunction : declaration.isFunction = true) :
    after.parametersOf target = parameters := by
  obtain ⟨state, hfunc⟩ := Option.isSome_iff_exists.mp hfunction
  simp [parametersOf, get_of_modify hchange, hget, Declaration.asFunc?_withParameters, hfunc,
    Func.withParameters]

theorem aliasedFunction_of_withParameters (id : DeclId) :
    after.aliasedFunction id = before.aliasedFunction id :=
  aliasedFunction_congr (size_of_withParameters hchange)
    (lookAlike_withParameters hchange fun _ => Declaration.aliasedFunction?_withParameters) id

theorem aliasOf_of_withParameters {name : DeclId} :
    after.AliasOf name id ↔ before.AliasOf name id :=
  (lookAlike_withParameters hchange fun _ => Declaration.aliasedFunction?_withParameters)
    |>.exists_get_iff (fun look => look) (fun _ => rfl) name (some id)

theorem withStatus_of_withParameters (config : Config) (wanted : Attribute) (status : Status) :
    after.withStatus config wanted status = before.withStatus config wanted status := by
  ext id
  exact (lookAlike_withParameters hchange fun _ =>
    Declaration.status_withParameters config wanted).exists_get_iff (fun look => look)
    (fun _ => rfl) id status

theorem effectsOf_of_withParameters (id : DeclId) : after.effectsOf id = before.effectsOf id := by
  have hlook : LookAlike (fun declaration => declaration.asFunc?.map Func.effects) before after :=
    lookAlike_withParameters hchange fun declaration => by
      rw [Declaration.asFunc?_withParameters, Option.map_map]
      rfl
  have hsame := hlook id
  unfold effectsOf
  cases hafter : after.get id <;> cases hbefore : before.get id <;>
    simp only [hafter, hbefore, ok_map, error_map, reduceCtorEq, Except.ok.injEq] at hsame
  · rfl
  · simp only [hsame]

theorem breaksDirectly_of_withParameters (wanted : Attribute) (effect : Effect) :
    after.breaksDirectly wanted effect = before.breaksDirectly wanted effect := by
  have hmodify : before.modifyFunc target (·.withParameters parameters) = .ok after := hchange
  exact breaksDirectly_of_modifyFunc hmodify wanted effect

theorem supports_of_withParameters {relied : Set DeclId} :
    after.Supports wanted relied id ↔ before.Supports wanted relied id := by
  simp only [Supports, Allows, effectsOf_of_withParameters hchange,
    aliasedFunction_of_withParameters hchange, breaksDirectly_of_withParameters hchange]

/-- The same functions have an attribute, whatever parameters one of them has. -/
theorem entitled_of_withParameters :
    after.entitled config wanted = before.entitled config wanted := by
  have hsupported : after.supported config wanted = before.supported config wanted := by
    ext members id
    change id ∈ after.withStatus config wanted .undecided ∧ _ ↔ _ ∧ _
    simp only [withStatus_of_withParameters hchange, supports_of_withParameters hchange]
  rw [entitled, entitled, withStatus_of_withParameters hchange, selfSupporting, selfSupporting,
    hsupported]

end Change

end Arena

end Declarations
