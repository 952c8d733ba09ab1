import Declarations.Inference.Purity
import Declarations.Proofs.Inference.Alike
import Declarations.Proofs.Inference.Parameters
import Declarations.Proofs.Overload.Inferred
import Mathlib.Order.MinMax

/-!
# How strong the purity of a function is

A pure function may be weakly pure because of one of its parameters, because of its object, or
because of the frame around it.  Each of them limits the strength of its purity, and the function is
as strong as the lowest of these limits allows.  So the order of the parameters does not matter, and
more parameters, or parameters with more behind their pointers, never make a function stronger.
-/

namespace Declarations

/-! ## The order of levels -/

instance : LinearOrder PurityLevel where
  le_refl level := Nat.le_refl level.rank
  le_trans _ _ _ := Nat.le_trans
  lt_iff_le_not_ge _ _ := Nat.lt_iff_le_and_not_ge
  le_antisymm := by
    intro left right
    cases left <;> cases right <;> decide
  le_total left right := Nat.le_total left.rank right.rank
  toDecidableLE := inferInstance
  min := PurityLevel.weaker
  min_def _ _ := rfl

/-- The kinds of data behind pointers are ordered by what can be done with the data. -/
instance : LE Indirection := ⟨fun left right => left.ctorIdx ≤ right.ctorIdx⟩

instance (left right : Indirection) : Decidable (left ≤ right) :=
  inferInstanceAs (Decidable (left.ctorIdx ≤ right.ctorIdx))

/-- Every parameter of one list is in another one as well, perhaps with more behind its pointers. -/
def ReachesFurther (facts otherFacts : TypeFacts) (narrow wide : List Parameter) : Prop :=
  ∀ parameter ∈ narrow, ∃ other ∈ wide, other.storage = parameter.storage ∧
    facts.indirection parameter.type ≤ otherFacts.indirection other.type

theorem ReachesFurther.of_subset {facts : TypeFacts} {narrow wide : List Parameter}
    (hsubset : narrow ⊆ wide) : ReachesFurther facts facts narrow wide :=
  fun parameter hmem => ⟨parameter, hsubset hmem, rfl, Nat.le_refl _⟩

namespace PurityLevel

variable {facts : TypeFacts}

theorem weaker_eq_min (left right : PurityLevel) : left.weaker right = min left right :=
  rfl

theorem le_strong (level : PurityLevel) : level ≤ strong := by
  cases level <;> decide

theorem ne_of_weak_le {level : PurityLevel} (hweak : weak ≤ level) :
    level ≠ impure ∧ level ≠ forwardReference := by
  constructor <;> (rintro rfl; exact absurd hweak (by decide))

/-- The more is behind the pointers, the weaker the purity. -/
theorem ofIndirection_anti {narrow wide : Indirection} (hle : narrow ≤ wide) :
    ofIndirection wide ≤ ofIndirection narrow := by
  cases narrow <;> cases wide <;> first | decide | exact absurd hle (by decide)

/-- Going through a list, the weakest level is picked out of those at the beginning and for the
members. -/
theorem isLeast_foldl {α : Type} (levelOf : α → PurityLevel) (members : List α)
    (start : PurityLevel) :
    IsLeast {level | level = start ∨ ∃ member ∈ members, level = levelOf member}
      (members.foldl (fun level member => weaker level (levelOf member)) start) := by
  induction members generalizing start with
  | nil => simp
  | cons member members ih =>
    obtain ⟨hmem, hlower⟩ := ih (weaker start (levelOf member))
    rw [weaker_eq_min] at hmem hlower
    constructor
    · obtain hfirst | ⟨other, hother, hlevel⟩ := hmem
      · obtain hstart | hmember := min_choice start (levelOf member)
        · exact .inl (hfirst.trans hstart)
        · exact .inr ⟨member, List.mem_cons_self, hfirst.trans hmember⟩
      · exact .inr ⟨other, List.mem_cons_of_mem member hother, hlevel⟩
    · have hfirst := hlower (.inl rfl)
      rintro level (rfl | ⟨other, hother, rfl⟩)
      · exact hfirst.trans (min_le_left _ _)
      · obtain rfl | hother := List.mem_cons.mp hother
        · exact hfirst.trans (min_le_right _ _)
        · exact hlower (.inr ⟨other, hother, rfl⟩)

theorem isLeast_ofParameters (facts : TypeFacts) (parameters : List Parameter) :
    IsLeast {level | level = strong ∨ ∃ parameter ∈ parameters, level = ofParameter facts parameter}
      (ofParameters facts parameters) :=
  isLeast_foldl (ofParameter facts) parameters strong

/-- A parameter with more behind its pointers makes purity no stronger. -/
theorem ofParameter_anti {otherFacts : TypeFacts} {parameter other : Parameter}
    (hstorage : other.storage = parameter.storage)
    (hbehind : facts.indirection parameter.type ≤ otherFacts.indirection other.type) :
    ofParameter otherFacts other ≤ ofParameter facts parameter := by
  simp only [ofParameter, hstorage]
  split
  · exact le_refl weak
  · exact ofIndirection_anti hbehind

theorem ofParameters_anti {otherFacts : TypeFacts} {narrow wide : List Parameter}
    (hreaches : ReachesFurther facts otherFacts narrow wide) :
    ofParameters otherFacts wide ≤ ofParameters facts narrow := by
  obtain ⟨-, hlower⟩ := isLeast_ofParameters otherFacts wide
  obtain ⟨hmem, -⟩ := isLeast_ofParameters facts narrow
  obtain hstrong | ⟨parameter, hparameter, hlevel⟩ := hmem
  · rw [hstrong]
    exact le_strong _
  · obtain ⟨other, hother, hstorage, hbehind⟩ := hreaches parameter hparameter
    rw [hlevel]
    exact (hlower (.inr ⟨other, hother, rfl⟩)).trans (ofParameter_anti hstorage hbehind)

/-- What the modifiers of an object say about purity. -/
theorem ofObject_ofStorage (storage : StorageClass) :
    ofObject (.ofStorage storage) =
      if .immutable ∈ storage then strong
      else if .const ∈ storage ∨ .wild ∈ storage then const
      else weak := by
  have himmutable : (Modifiers.ofStorage storage).contains .immutable = true ↔
      .immutable ∈ storage := by
    rw [← FlagSet.mem_iff, Modifiers.mem_ofStorage]
    rfl
  have hmeets : (Modifiers.ofStorage storage).meets {.const, .wild} = true ↔
      .const ∈ storage ∨ .wild ∈ storage := by
    simp only [FlagSet.meets_iff, Modifiers.mem_ofStorage, FlagSet.mem_insert,
      FlagSet.mem_singleton, and_or_left, exists_or, exists_eq_right]
    rfl
  simp only [ofObject, himmutable, hmeets]

end PurityLevel

/-! ## What limits purity -/

namespace Arena

/-- What limits how strong the purity of a function can be. -/
inductive LimitsPurity (arena : Arena) (facts : TypeFacts) (function : DeclId) :
    PurityLevel → Prop where
  | nothing : LimitsPurity arena facts function .strong
  /-- A parameter through which the function reaches into its caller. -/
  | reference {parameter : Parameter} (mem : parameter ∈ arena.parametersOf function)
      (passed : parameter.storage.meets {.ref, .output, .lazy} = true) :
      LimitsPurity arena facts function .weak
  | constParameter {parameter : Parameter} (mem : parameter ∈ arena.parametersOf function)
      (passed : parameter.storage.meets {.ref, .output, .lazy} = false)
      (behind : facts.indirection parameter.type = .const) :
      LimitsPurity arena facts function .const
  | mutableParameter {parameter : Parameter} (mem : parameter ∈ arena.parametersOf function)
      (passed : parameter.storage.meets {.ref, .output, .lazy} = false)
      (behind : facts.indirection parameter.type = .mutable) :
      LimitsPurity arena facts function .weak
  /-- An object that the function sees as `const` or `inout`. -/
  | constObject {declaration : Declaration} (get : arena.get function = .ok declaration)
      (needed : arena.needsObject function = .ok true)
      (changes : .immutable ∉ declaration.storage)
      (seen : .const ∈ declaration.storage ∨ .wild ∈ declaration.storage) :
      LimitsPurity arena facts function .const
  | mutableObject {declaration : Declaration} (get : arena.get function = .ok declaration)
      (needed : arena.needsObject function = .ok true)
      (changes : .immutable ∉ declaration.storage)
      (seen : ¬(.const ∈ declaration.storage ∨ .wild ∈ declaration.storage)) :
      LimitsPurity arena facts function .weak
  /-- The frame of the function around it. -/
  | frame (needed : arena.isNested function = .ok true) : LimitsPurity arena facts function .weak

end Arena

namespace Declaration

variable {declaration left right : Declaration} {parameters : List Parameter}
variable {facts otherFacts : TypeFacts}

def objectLimit (declaration : Declaration) : PurityLevel :=
  if declaration.objectOf?.isSome then .ofObject (.ofStorage declaration.storage) else .strong

def frameLimit (declaration : Declaration) : PurityLevel :=
  if declaration.needsFrame then .weak else .strong

def purityStrength (declaration : Declaration) (facts : TypeFacts) (parameters : List Parameter) :
    PurityLevel :=
  min (min (.ofParameters facts parameters) declaration.objectLimit) declaration.frameLimit

/-- The record of inference has no part in what limits purity. -/
theorem purityStrength_keep {kept : Attributes} :
    (declaration.keep kept).purityStrength facts parameters =
      declaration.purityStrength facts parameters := by
  have hframe : (declaration.keep kept).needsFrame = declaration.needsFrame := by
    cases hfunc : declaration.asFunc? with
    | none => rw [keep_of_asFunc?_eq_none hfunc]
    | some state =>
      have hstatic : (declaration.keep kept).storage.contains .static =
          declaration.storage.contains .static :=
        contains_keep (by intro guarantee; cases guarantee <;> simp [Attribute.flag])
      rw [needsFrame_eq, needsFrame_eq, hstatic, objectOf?_keep, asFunc?_keep, hfunc,
        keep_of_asFunc? hfunc]
      rfl
  simp only [purityStrength, objectLimit, frameLimit, objectOf?_keep, ofStorage_keep, hframe]

theorem purityStrength_congr {kept : Attributes} (hkeep : left.keep kept = right.keep kept) :
    left.purityStrength facts parameters = right.purityStrength facts parameters := by
  rw [← purityStrength_keep, hkeep, purityStrength_keep]

@[simp]
theorem purityStrength_withParameters {others : List Parameter} :
    (declaration.withParameters others).purityStrength facts parameters =
      declaration.purityStrength facts parameters := by
  simp [purityStrength, objectLimit, frameLimit]

theorem purityStrength_anti {narrow wide : List Parameter}
    (hreaches : ReachesFurther facts otherFacts narrow wide) :
    declaration.purityStrength otherFacts wide ≤ declaration.purityStrength facts narrow :=
  min_le_min (min_le_min (PurityLevel.ofParameters_anti hreaches) le_rfl) le_rfl

/-- The order of the parameters does not matter. -/
theorem purityStrength_perm {others : List Parameter} (hperm : others.Perm parameters) :
    declaration.purityStrength facts others = declaration.purityStrength facts parameters :=
  le_antisymm (purityStrength_anti (.of_subset hperm.symm.subset))
    (purityStrength_anti (.of_subset hperm.subset))

end Declaration

namespace Arena

variable {arena : Arena} {function : DeclId} {declaration : Declaration} {facts : TypeFacts}
variable {limit : PurityLevel}

theorem limitsPurity_ofParameter {parameter : Parameter}
    (hmem : parameter ∈ arena.parametersOf function) :
    arena.LimitsPurity facts function (.ofParameter facts parameter) := by
  unfold PurityLevel.ofParameter
  split
  · next passed => exact .reference hmem passed
  · next passed =>
    rw [Bool.not_eq_true] at passed
    cases behind : facts.indirection parameter.type with
    | none => exact .nothing
    | immutable => exact .nothing
    | const => exact .constParameter hmem passed behind
    | mutable => exact .mutableParameter hmem passed behind

section Proper

variable (hget : arena.get function = .ok declaration) (hfunction : declaration.isFunction = true)
  (hproper : declaration.aliasedFunction? = none)
include hget hproper

theorem isNested_of_proper : arena.isNested function = .ok declaration.needsFrame := by
  simp [isNested, aliasedFunction_of_eq_none hget hproper, hget]

theorem limitsPurity_frameLimit : arena.LimitsPurity facts function declaration.frameLimit := by
  have hnested := isNested_of_proper hget hproper
  rw [Declaration.frameLimit]
  split
  · next needed =>
    rw [needed] at hnested
    exact .frame hnested
  · exact .nothing

include hfunction

theorem needsObject_of_proper :
    arena.needsObject function = .ok declaration.objectOf?.isSome := by
  obtain ⟨state, hfunc⟩ := Option.isSome_iff_exists.mp hfunction
  simp [needsObject, hget, Declaration.entity_of_asFunc? hfunc,
    aliasedFunction_of_eq_none hget hproper]

theorem limitsPurity_objectLimit : arena.LimitsPurity facts function declaration.objectLimit := by
  have hobject := needsObject_of_proper hget hfunction hproper
  rw [Declaration.objectLimit, PurityLevel.ofObject_ofStorage]
  split
  · next needed =>
    rw [needed] at hobject
    split
    · exact .nothing
    · next changes =>
      split
      · next seen => exact .constObject hget hobject changes seen
      · next seen => exact .mutableObject hget hobject changes seen
  · exact .nothing

/-- Every limit comes from a parameter, from the object, or from the frame. -/
theorem LimitsPurity.origin (hlimits : arena.LimitsPurity facts function limit) :
    (limit = .strong ∨ ∃ parameter ∈ arena.parametersOf function,
      limit = .ofParameter facts parameter) ∨
    limit = declaration.objectLimit ∨ limit = declaration.frameLimit := by
  have hobject := needsObject_of_proper hget hfunction hproper
  have hnested := isNested_of_proper hget hproper
  cases hlimits with
  | nothing => exact .inl (.inl rfl)
  | reference mem passed =>
    exact .inl (.inr ⟨_, mem, by simp [PurityLevel.ofParameter, passed]⟩)
  | constParameter mem passed behind =>
    exact .inl (.inr ⟨_, mem, by
      simp [PurityLevel.ofParameter, passed, behind, PurityLevel.ofIndirection]⟩)
  | mutableParameter mem passed behind =>
    exact .inl (.inr ⟨_, mem, by
      simp [PurityLevel.ofParameter, passed, behind, PurityLevel.ofIndirection]⟩)
  | constObject get needed changes seen =>
    obtain rfl := Except.ok.inj (hget.symm.trans get)
    rw [hobject, Except.ok.injEq] at needed
    rw [Declaration.objectLimit, if_pos needed, PurityLevel.ofObject_ofStorage, if_neg changes,
      if_pos seen]
    exact .inr (.inl rfl)
  | mutableObject get needed changes seen =>
    obtain rfl := Except.ok.inj (hget.symm.trans get)
    rw [hobject, Except.ok.injEq] at needed
    rw [Declaration.objectLimit, if_pos needed, PurityLevel.ofObject_ofStorage, if_neg changes,
      if_neg seen]
    exact .inr (.inl rfl)
  | frame needed =>
    rw [hnested, Except.ok.injEq] at needed
    rw [Declaration.frameLimit, if_pos needed]
    exact .inr (.inr rfl)

theorem limitsPurity_iff : arena.LimitsPurity facts function limit ↔
    (limit = .strong ∨ ∃ parameter ∈ arena.parametersOf function,
      limit = .ofParameter facts parameter) ∨
    limit = declaration.objectLimit ∨ limit = declaration.frameLimit := by
  constructor
  · exact LimitsPurity.origin hget hfunction hproper
  · rintro ((rfl | ⟨parameter, hmem, rfl⟩) | rfl | rfl)
    · exact .nothing
    · exact limitsPurity_ofParameter hmem
    · exact limitsPurity_objectLimit hget hfunction hproper
    · exact limitsPurity_frameLimit hget hproper

/-- The strength of purity is the lowest limit. -/
theorem isLeast_purityStrength (facts : TypeFacts) :
    IsLeast {limit | arena.LimitsPurity facts function limit}
      (declaration.purityStrength facts (arena.parametersOf function)) := by
  have hlimits : {limit | arena.LimitsPurity facts function limit} =
      {limit | limit = .strong ∨ ∃ parameter ∈ arena.parametersOf function,
        limit = .ofParameter facts parameter} ∪ {declaration.objectLimit} ∪
        {declaration.frameLimit} := by
    ext limit
    simp only [Set.mem_union, Set.mem_singleton_iff, Set.mem_ofPred_eq,
      limitsPurity_iff hget hfunction hproper, or_assoc]
  rw [hlimits]
  exact ((PurityLevel.isLeast_ofParameters facts _).union isLeast_singleton).union
    isLeast_singleton

end Proper

/-- No limit of purity makes a pure function impure. -/
theorem LimitsPurity.weak_le (hlimits : arena.LimitsPurity facts function limit) :
    .weak ≤ limit := by
  cases hlimits <;> decide

end Arena

/-! ## The strength that is found -/

namespace Session

open Relation Arena

variable {arena : Arena} {session after : Session} {declaration : Declaration} {state : Func}
variable {facts : TypeFacts} {function target : DeclId}

/-- The strength of a proper function, in any session. -/
theorem strength_eq (hget : session.arena.get function = .ok declaration)
    (hfunc : declaration.asFunc? = some state) (hproper : declaration.aliasedFunction? = none) :
    session.strength facts function state =
      .ok (declaration.purityStrength facts state.parameters) := by
  have hfunction : declaration.isFunction = true := Option.isSome_iff_exists.mpr ⟨state, hfunc⟩
  have hobject : session.objectStrength function = .ok declaration.objectLimit := by
    rw [objectStrength, needsObject_of_proper hget hfunction hproper, ok_bind, hget,
      Declaration.objectLimit]
    split <;> rfl
  have hframe : session.frameStrength function = .ok declaration.frameLimit := by
    rw [frameStrength, isNested_of_proper hget hproper, ok_bind, Declaration.frameLimit]
    split <;> rfl
  rw [strength, hobject, ok_bind, hframe, ok_bind]
  rfl

/-- A function is read again after an inference, which has changed nothing but its record. -/
theorem exists_strength {kept : Attributes} (hkeep : after.arena.keep kept = arena.keep kept)
    (facts : TypeFacts) (hget : arena.get function = .ok declaration)
    (hfunction : declaration.isFunction = true) (hproper : declaration.aliasedFunction? = none) :
    ∃ state, after.arena.asFunc? function = .ok (some state) ∧
      after.strength facts function state =
        .ok (declaration.purityStrength facts (arena.parametersOf function)) := by
  obtain ⟨state, hfunc⟩ := Option.isSome_iff_exists.mp hfunction
  obtain ⟨later, hlater, hsame⟩ := exists_get_of_keep_eq hkeep.symm hget
  obtain ⟨laterState, hlaterFunc, hstate⟩ := Declaration.exists_asFunc?_of_keep_eq hsame hfunc
  have hlaterProper : later.aliasedFunction? = none := by
    rw [← Declaration.aliasedFunction?_keep, ← hsame, Declaration.aliasedFunction?_keep, hproper]
  have hparameters : laterState.parameters = arena.parametersOf function :=
    calc
      laterState.parameters = (laterState.keep kept).parameters := rfl
      _ = (state.keep kept).parameters := by rw [hstate]
      _ = arena.parametersOf function := by simp [parametersOf, hget, hfunc, Func.keep]
  refine ⟨laterState, by simp [asFunc?, hlater, hlaterFunc], ?_⟩
  rw [strength_eq hlater hlaterFunc hlaterProper, hparameters,
    Declaration.purityStrength_congr hsame]

/-- A function that has an attribute is a function. -/
theorem isFunction_of_entitled {config : Config} {wanted : Attribute}
    (hentitled : target ∈ arena.entitled config wanted)
    (hget : arena.get target = .ok declaration) : declaration.isFunction = true := by
  by_contra hnot
  have hfails : target ∈ arena.withStatus config wanted .fails :=
    mem_fails_of_not_isFunction hget (by simpa using hnot)
  obtain hholds | hopen := entitled_subset hentitled
  · exact notMem_withStatus hfails (by decide) hholds
  · exact notMem_withStatus hfails (by decide) hopen

/-- The strength that is found is that of the function that is really asked about, if it is pure. -/
theorem exists_purityLevel (config : Config) (facts : TypeFacts) (hclosed : arena.Closed)
    (hacyclic : ∀ id, ¬TransGen arena.AliasOf id id) (hfunction : function.number < arena.size) :
    ∃ target declaration holds after, arena.aliasedFunction function = .ok target ∧
      arena.get target = .ok declaration ∧ declaration.aliasedFunction? = none ∧
      infer config { arena } target .purity = .ok (holds, after) ∧
      (holds = true ↔ target ∈ arena.entitled config .purity) ∧
      purityLevel config { arena } facts function = .ok
        (if holds then declaration.purityStrength facts (arena.parametersOf target) else .impure,
          after) := by
  have hidle : Session.Idle { arena } := ⟨rfl, hclosed⟩
  obtain ⟨target, halias, htarget⟩ := hclosed.aliasedFunction hfunction
  obtain ⟨declaration, hget⟩ := exists_get htarget
  have hproper := isProper_of_aliasedFunction hacyclic halias declaration hget
  obtain ⟨found, holds, after, hfound, -, hinfer, hanswered⟩ :=
    infer_answered config .purity hidle htarget
  obtain rfl : target = found :=
    Except.ok.inj ((aliasedFunction_of_eq_none hget hproper).symm.trans hfound)
  have hholds : holds = true ↔ target ∈ arena.entitled config .purity :=
    hanswered.holds_iff fun hsubset hmem => hsubset hmem
  refine ⟨target, declaration, holds, after, halias, hget, hproper, hinfer, hholds, ?_⟩
  have hopen : isOpen { arena } target .purity = false := rfl
  simp only [purityLevel, halias, ok_bind, hopen, hinfer, Bool.false_eq_true, if_false]
  cases holds with
  | false => rfl
  | true =>
    obtain ⟨state, hstate, hstrength⟩ := exists_strength hanswered.learns.outline_eq facts hget
      (isFunction_of_entitled (hholds.mp rfl) hget) hproper
    simp [hstate, hstrength]

/-- With other parameters the function is as pure as before, and as strong as those allow. -/
theorem exists_purityLevel_withParameters (config : Config) (facts : TypeFacts)
    (hclosed : arena.Closed) (hacyclic : ∀ id, ¬TransGen arena.AliasOf id id)
    (hfunction : function.number < arena.size)
    (halias : arena.aliasedFunction function = .ok target)
    (hget : arena.get target = .ok declaration) {holds : Bool}
    (hholds : holds = true ↔ target ∈ arena.entitled config .purity)
    (parameters : List Parameter) :
    ∃ changed after, arena.withParameters target parameters = .ok changed ∧
      purityLevel config { arena := changed } facts function = .ok
        (if holds then declaration.purityStrength facts parameters else .impure, after) := by
  obtain ⟨changed, hchange, hchangedClosed⟩ :=
    exists_withParameters hclosed (lt_of_get hget) parameters
  have hchangedAcyclic : ∀ id, ¬TransGen changed.AliasOf id id := by
    have hsame : changed.AliasOf = arena.AliasOf := by
      funext name id
      exact propext (aliasOf_of_withParameters hchange)
    rwa [hsame]
  obtain ⟨found, changedDeclaration, changedHolds, after, hfound, hchangedGet, -, -, hchangedHolds,
    hlevel⟩ := exists_purityLevel config facts hchangedClosed hchangedAcyclic
      (by rwa [size_of_withParameters hchange])
  rw [aliasedFunction_of_withParameters hchange, halias, Except.ok.injEq] at hfound
  subst hfound
  rw [entitled_of_withParameters hchange, ← hholds, ← Bool.eq_iff_iff] at hchangedHolds
  subst hchangedHolds
  rw [get_of_modify hchange, if_pos rfl, hget, ok_map, Except.ok.injEq] at hchangedGet
  subst hchangedGet
  refine ⟨changed, after, hchange, hlevel.trans ?_⟩
  cases changedHolds with
  | false => rfl
  | true =>
    have hisFunction := isFunction_of_entitled (hholds.mp rfl) hget
    rw [parametersOf_of_withParameters hchange hget hisFunction,
      Declaration.purityStrength_withParameters]

/-- The strength of the purity of a function is that of the lowest limit, unless the function is not
pure.  The order of its parameters does not matter, and neither more parameters nor more behind
their pointers make it stronger.  Asking for it changes what asking whether the function is pure
changes. -/
theorem purityLevel_isLeast (config : Config) (facts : TypeFacts) (hclosed : arena.Closed)
    (hacyclic : ∀ id, ¬TransGen arena.AliasOf id id) (hfunction : function.number < arena.size) :
    ∃ target holds after level, arena.aliasedFunction function = .ok target ∧
      infer config { arena } target .purity = .ok (holds, after) ∧
      purityLevel config { arena } facts function = .ok (level, after) ∧
      (level = .impure ↔ holds = false) ∧ level ≠ .forwardReference ∧
      (holds = true → IsLeast {limit | arena.LimitsPurity facts target limit} level) ∧
      (∀ parameters : List Parameter, parameters.Perm (arena.parametersOf target) →
        ∃ changed changedAfter, arena.withParameters target parameters = .ok changed ∧
          purityLevel config { arena := changed } facts function = .ok (level, changedAfter)) ∧
      ∀ (parameters : List Parameter) (otherFacts : TypeFacts),
        ReachesFurther facts otherFacts (arena.parametersOf target) parameters →
        ∃ changed other changedAfter, arena.withParameters target parameters = .ok changed ∧
          purityLevel config { arena := changed } otherFacts function = .ok (other, changedAfter) ∧
          other ≤ level := by
  obtain ⟨target, declaration, holds, after, halias, hget, hproper, hinfer, hholds, hlevel⟩ :=
    exists_purityLevel config facts hclosed hacyclic hfunction
  have hleast : holds = true → IsLeast {limit | arena.LimitsPurity facts target limit}
      (declaration.purityStrength facts (arena.parametersOf target)) := fun hpure =>
    isLeast_purityStrength hget (isFunction_of_entitled (hholds.mp hpure) hget) hproper facts
  have hweak (hpure : holds = true) :
      .weak ≤ declaration.purityStrength facts (arena.parametersOf target) :=
    (hleast hpure).1.weak_le
  refine ⟨target, holds, after, _, halias, hinfer, hlevel, ?_, ?_, ?_, ?_, ?_⟩
  · cases holds with
    | false => simp
    | true => simpa using (PurityLevel.ne_of_weak_le (hweak rfl)).1
  · cases holds with
    | false => simp
    | true => simpa using (PurityLevel.ne_of_weak_le (hweak rfl)).2
  · intro hpure
    rw [if_pos hpure]
    exact hleast hpure
  · intro parameters hperm
    obtain ⟨changed, changedAfter, hchange, hfound⟩ := exists_purityLevel_withParameters config
      facts hclosed hacyclic hfunction halias hget hholds parameters
    rw [Declaration.purityStrength_perm hperm] at hfound
    exact ⟨changed, changedAfter, hchange, hfound⟩
  · intro parameters otherFacts hreaches
    obtain ⟨changed, changedAfter, hchange, hfound⟩ := exists_purityLevel_withParameters config
      otherFacts hclosed hacyclic hfunction halias hget hholds parameters
    refine ⟨changed, _, changedAfter, hchange, hfound, ?_⟩
    split
    · exact Declaration.purityStrength_anti hreaches
    · exact le_rfl

/-- A pure function that takes a pointer to `const` data, and another name for it. -/
def pureReader : Arena where
  declarations := #[
    { Declaration.func .anonymous .synthetic .plain [⟨.anonymous, ⟨3⟩, ∅, none⟩] with
      storage := {.pure} },
    .func .anonymous .synthetic (.aliasTo ⟨0⟩ false) []]

def constPointer : TypeFacts :=
  .ofRows [{ type := ⟨3⟩, size := 8, alignment := 8, hasPointers := true, indirection := .const }]

theorem purityLevel_isLeast_pureReader :
    pureReader.Closed ∧ (∀ id, ¬TransGen pureReader.AliasOf id id) ∧
    (⟨1⟩ : DeclId).number < pureReader.size ∧
    ∃ target holds after level, pureReader.aliasedFunction ⟨1⟩ = .ok target ∧
      infer {} { arena := pureReader } target .purity = .ok (holds, after) ∧
      purityLevel {} { arena := pureReader } constPointer ⟨1⟩ = .ok (level, after) ∧
      (level = .impure ↔ holds = false) ∧ level ≠ .forwardReference ∧
      (holds = true → IsLeast {limit | pureReader.LimitsPurity constPointer target limit} level) ∧
      (∀ parameters : List Parameter, parameters.Perm (pureReader.parametersOf target) →
        ∃ changed changedAfter, pureReader.withParameters target parameters = .ok changed ∧
          purityLevel {} { arena := changed } constPointer ⟨1⟩ = .ok (level, changedAfter)) ∧
      ∀ (parameters : List Parameter) (otherFacts : TypeFacts),
        ReachesFurther constPointer otherFacts (pureReader.parametersOf target) parameters →
        ∃ changed other changedAfter, pureReader.withParameters target parameters = .ok changed ∧
          purityLevel {} { arena := changed } otherFacts ⟨1⟩ = .ok (other, changedAfter) ∧
          other ≤ level := by
  have hclosed : pureReader.Closed := by decide
  have hacyclic : ∀ id, ¬TransGen pureReader.AliasOf id id :=
    not_transGen_aliasOf_of_lt (by decide)
  have hsize : (⟨1⟩ : DeclId).number < pureReader.size := by decide
  exact ⟨hclosed, hacyclic, hsize, purityLevel_isLeast {} constPointer hclosed hacyclic hsize⟩

example : (purityLevel {} { arena := pureReader } constPointer ⟨1⟩).map Prod.fst = .ok .const := by
  rfl

end Session

end Declarations
