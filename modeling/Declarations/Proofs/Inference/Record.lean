import Declarations.Inference.Downgrade
import Declarations.Proofs.Arena.Change

/-!
# What is recorded about attributes

Inference writes into declarations: into the storage class the attributes that hold, and into the
state of a function which of them were inferred and which are settled.  `Declaration.keep` leaves of
that record only what concerns some of the attributes.  Two arenas with the same record of one
attribute cannot be told apart by questions about that attribute, and with `∅` nothing is left but
what inference never writes.
-/

namespace Declarations

def Attributes.others (attributes : Attributes) : Attributes :=
  FlagSet.full \ attributes

@[simp]
theorem Attributes.mem_others {attributes : Attributes} {guarantee : Attribute} :
    guarantee ∈ attributes.others ↔ guarantee ∉ attributes := by
  simp [others]

/-- No attribute is recorded by the properties of a constant. -/
theorem Attribute.flag_notMem_constant (guarantee : Attribute) :
    guarantee.flag ∉ ({.immutable, .manifest} : StorageClass) := by
  cases guarantee <;> simp [flag]

def Func.keep (kept : Attributes) (function : Func) : Func :=
  { function with
    inferred := function.inferred ∩ kept
    concluded := function.concluded ∩ kept }

namespace Declaration

/-- The declaration with the record of the kept attributes only. -/
def keep (kept : Attributes) (declaration : Declaration) : Declaration :=
  match declaration.entity with
  | .func state =>
      { declaration with
        storage := declaration.storage \ kept.others.storage
        entity := .func (state.keep kept) }
  | _ => declaration

variable {declaration : Declaration} {state : Func} {kept : Attributes} {wanted : Attribute}

theorem keep_of_asFunc? (hfunc : declaration.asFunc? = some state) :
    declaration.keep kept =
      { declaration with
        storage := declaration.storage \ kept.others.storage
        entity := .func (state.keep kept) } := by
  rw [keep, entity_of_asFunc? hfunc]

theorem keep_of_asFunc?_eq_none (hfunc : declaration.asFunc? = none) :
    declaration.keep kept = declaration := by
  unfold asFunc? at hfunc
  unfold keep
  split <;> simp_all

theorem asFunc?_keep :
    (declaration.keep kept).asFunc? = declaration.asFunc?.map (Func.keep kept) := by
  cases hfunc : declaration.asFunc? with
  | none => rw [keep_of_asFunc?_eq_none hfunc, hfunc]; rfl
  | some state => rw [keep_of_asFunc? hfunc]; rfl

@[simp]
theorem isFunction_keep : (declaration.keep kept).isFunction = declaration.isFunction := by
  simp [isFunction, asFunc?_keep]

/-- A property is kept unless it records an attribute that is not kept. -/
theorem mem_storage_keep {mark : StorageFlag}
    (hkept : ∀ guarantee : Attribute, guarantee.flag = mark → guarantee ∈ kept) :
    mark ∈ (declaration.keep kept).storage ↔ mark ∈ declaration.storage := by
  cases hfunc : declaration.asFunc? with
  | none => rw [keep_of_asFunc?_eq_none hfunc]
  | some state =>
    rw [keep_of_asFunc? hfunc]
    simp only [FlagSet.mem_sdiff, Attributes.mem_storage, Attributes.mem_others, not_exists,
      not_and, and_iff_left_iff_imp]
    rintro - guarantee hnot hflag
    exact hnot (hkept guarantee hflag)

/-- Properties that record no attribute are kept. -/
theorem contains_keep {mark : StorageFlag}
    (hmark : ∀ guarantee : Attribute, guarantee.flag ≠ mark) :
    (declaration.keep kept).storage.contains mark =
      declaration.storage.contains mark :=
  Bool.eq_iff_iff.mpr
    (mem_storage_keep fun guarantee hflag => absurd hflag (hmark guarantee))

theorem mem_trusted_keep : .trusted ∈ (declaration.keep kept).storage ↔
    .trusted ∈ declaration.storage :=
  mem_storage_keep (by intro guarantee; cases guarantee <;> simp [Attribute.flag])

/-- Properties that record no attribute are met as before. -/
theorem meets_keep {marks : StorageClass}
    (hmarks : ∀ guarantee : Attribute, guarantee.flag ∉ marks) :
    (declaration.keep kept).storage.meets marks = declaration.storage.meets marks := by
  rw [Bool.eq_iff_iff, FlagSet.meets_iff, FlagSet.meets_iff]
  refine exists_congr fun mark => and_congr_left fun hmark => mem_storage_keep ?_
  rintro guarantee rfl
  exact absurd hmark (hmarks guarantee)

/-- The record of a kept attribute says whether the attribute holds. -/
theorem holdsIn_keep (hwanted : wanted ∈ kept) :
    wanted.holdsIn (declaration.keep kept).storage = wanted.holdsIn declaration.storage := by
  rw [Bool.eq_iff_iff, Attribute.holdsIn_iff, Attribute.holdsIn_iff,
    mem_storage_keep (by simpa using hwanted), mem_trusted_keep]

/-- What can be known without the body depends on the record of the attribute alone. -/
theorem status_keep {config : Config} (hwanted : wanted ∈ kept) :
    (declaration.keep kept).status config wanted = declaration.status config wanted := by
  cases hfunc : declaration.asFunc? with
  | none => rw [keep_of_asFunc?_eq_none hfunc]
  | some state =>
    have hsystem : (declaration.keep kept).storage.contains .system =
        declaration.storage.contains .system :=
      contains_keep (by intro guarantee; cases guarantee <;> simp [Attribute.flag])
    have hinference : (declaration.keep kept).storage.contains .inference =
        declaration.storage.contains .inference :=
      contains_keep (by intro guarantee; cases guarantee <;> simp [Attribute.flag])
    have hconcluded : (state.keep kept).concluded.contains wanted =
        state.concluded.contains wanted :=
      Bool.eq_iff_iff.mpr ((FlagSet.mem_inter).trans (and_iff_left hwanted))
    simp only [status, asFunc?_keep, hfunc, Option.map_some, holdsIn_keep hwanted, hconcluded,
      isRuledOut, isTransparent, isInferable, hsystem, hinference]
    rfl

/-- What can be known without the body depends on no more of the state of a function than its role,
its flags, what is concluded, and whether there is a body. -/
theorem status_mapFunc {config : Config} {change : Func → Func}
    (hrole : ∀ state, (change state).role = state.role)
    (hflags : ∀ state, (change state).flags = state.flags)
    (hconcluded : ∀ state, (change state).concluded = state.concluded)
    (hbody : ∀ state, declaration.asFunc? = some state →
      (change state).body.isSome = state.body.isSome) :
    (declaration.mapFunc change).status config wanted = declaration.status config wanted := by
  cases hfunc : declaration.asFunc? with
  | none => rw [mapFunc_of_asFunc?_eq_none hfunc]
  | some state =>
    simp only [status, asFunc?_mapFunc, hfunc, Option.map_some, storage_mapFunc, isRuledOut,
      isTransparent, isInferable, hrole, hflags, hconcluded, hbody state hfunc]
    rfl

@[simp]
theorem effects_keep :
    (declaration.keep kept).asFunc?.map Func.effects = declaration.asFunc?.map Func.effects := by
  rw [asFunc?_keep, Option.map_map]
  rfl

@[simp]
theorem aliasedFunction?_keep :
    (declaration.keep kept).aliasedFunction? = declaration.aliasedFunction? := by
  cases hfunc : declaration.asFunc? with
  | none => rw [keep_of_asFunc?_eq_none hfunc]
  | some state =>
    rw [keep_of_asFunc? hfunc]
    simp only [aliasedFunction?, entity_of_asFunc? hfunc]
    rfl

@[simp]
theorem asVariable?_keep : (declaration.keep kept).asVariable? = declaration.asVariable? := by
  cases hfunc : declaration.asFunc? with
  | none => rw [keep_of_asFunc?_eq_none hfunc]
  | some state =>
    rw [keep_of_asFunc? hfunc]
    simp only [asVariable?, entity_of_asFunc? hfunc]

@[simp]
theorem handles_keep : (declaration.keep kept).handles = declaration.handles := by
  cases hfunc : declaration.asFunc? with
  | none => rw [keep_of_asFunc?_eq_none hfunc]
  | some state =>
    rw [keep_of_asFunc? hfunc]
    simp only [handles, entity_of_asFunc? hfunc]
    rfl

@[simp]
theorem aggregateHandles_keep :
    (declaration.keep kept).aggregateHandles = declaration.aggregateHandles := by
  cases hfunc : declaration.asFunc? with
  | none => rw [keep_of_asFunc?_eq_none hfunc]
  | some state =>
    rw [keep_of_asFunc? hfunc]
    simp only [aggregateHandles, entity_of_asFunc? hfunc]
    rfl

@[simp]
theorem objectOf?_keep : (declaration.keep kept).objectOf? = declaration.objectOf? := by
  cases hfunc : declaration.asFunc? with
  | none => rw [keep_of_asFunc?_eq_none hfunc]
  | some state =>
    have hstatic : (declaration.keep kept).storage.contains .static =
        declaration.storage.contains .static :=
      contains_keep (by intro guarantee; cases guarantee <;> simp [Attribute.flag])
    rw [keep_of_asFunc? hfunc] at hstatic ⊢
    simp only [objectOf?, hstatic, entity_of_asFunc? hfunc]
    rfl

/-- A change of the state that has no part in the record. -/
theorem keep_mapFunc {change : Func → Func}
    (hchange : ∀ state, (change state).keep kept = change (state.keep kept)) :
    (declaration.mapFunc change).keep kept = (declaration.keep kept).mapFunc change := by
  cases hfunc : declaration.asFunc? with
  | none => rw [mapFunc_of_asFunc?_eq_none hfunc, keep_of_asFunc?_eq_none hfunc,
      mapFunc_of_asFunc?_eq_none hfunc]
  | some state =>
    have hkept : (declaration.keep kept).asFunc? = some (state.keep kept) := by
      rw [asFunc?_keep, hfunc, Option.map_some]
    have hchanged : (declaration.mapFunc change).asFunc? = some (change state) := by
      rw [asFunc?_mapFunc, hfunc, Option.map_some]
    rw [keep_of_asFunc? hchanged, mapFunc_of_asFunc? hkept, mapFunc_of_asFunc? hfunc,
      keep_of_asFunc? hfunc, hchange]

/-- Leaving out the record of some attributes and then of others leaves that of both out. -/
theorem keep_keep {first second : Attributes} :
    (declaration.keep first).keep second = declaration.keep (first ∩ second) := by
  cases hfunc : declaration.asFunc? with
  | none => simp only [keep_of_asFunc?_eq_none hfunc]
  | some state =>
    have hkept : (declaration.keep first).asFunc? = some (state.keep first) := by
      rw [asFunc?_keep, hfunc, Option.map_some]
    rw [keep_of_asFunc? hkept, keep_of_asFunc? hfunc, keep_of_asFunc? hfunc]
    congr 1
    · ext mark
      simp only [FlagSet.mem_sdiff, Attributes.mem_storage, Attributes.mem_others,
        FlagSet.mem_inter]
      grind
    · simp only [Func.keep, Entity.func.injEq, Func.mk.injEq, true_and, and_true]
      constructor <;> (ext guarantee; simp [and_assoc])

/-! ## What conclusions and withdrawals change -/

theorem conclude_of_asFunc? (hfunc : declaration.asFunc? = some state) (holds : Bool) :
    declaration.conclude wanted holds =
      { declaration with
        storage := if holds then insert wanted.flag declaration.storage else declaration.storage
        entity := .func { state with
          concluded := insert wanted state.concluded
          inferred := if holds then insert wanted state.inferred else state.inferred } } := by
  cases holds <;> simp [conclude, hfunc]

theorem asFunc?_conclude (hfunc : declaration.asFunc? = some state) (holds : Bool) :
    (declaration.conclude wanted holds).asFunc? = some { state with
      concluded := insert wanted state.concluded
      inferred := if holds then insert wanted state.inferred else state.inferred } := by
  rw [conclude_of_asFunc? hfunc]
  rfl

theorem withdraw_of_asFunc? (hfunc : declaration.asFunc? = some state) :
    declaration.withdraw wanted =
      { declaration with
        storage := declaration.storage \ {wanted.flag}
        entity := .func { state with inferred := state.inferred \ {wanted} } } := by
  rw [withdraw, mapFunc, entity_of_asFunc? hfunc]

theorem asFunc?_withdraw (hfunc : declaration.asFunc? = some state) :
    (declaration.withdraw wanted).asFunc? =
      some { state with inferred := state.inferred \ {wanted} } := by
  rw [withdraw_of_asFunc? hfunc]
  rfl

/-- A conclusion about one attribute leaves the record of the others alone. -/
theorem keep_conclude (hwanted : wanted ∉ kept) (holds : Bool) :
    (declaration.conclude wanted holds).keep kept = declaration.keep kept := by
  cases hfunc : declaration.asFunc? with
  | none => simp [conclude, hfunc]
  | some state =>
    rw [keep_of_asFunc? (asFunc?_conclude hfunc holds), keep_of_asFunc? hfunc,
      conclude_of_asFunc? hfunc]
    congr 1
    · ext mark
      cases holds <;>
        simp only [FlagSet.mem_sdiff, FlagSet.mem_insert, Attributes.mem_storage,
          Attributes.mem_others, if_true, if_false, Bool.false_eq_true]
      grind
    · simp only [Func.keep, Entity.func.injEq, Func.mk.injEq, true_and, and_true]
      constructor <;> (ext guarantee; cases holds <;> simp) <;> grind

/-- The withdrawal of one attribute leaves the record of the others alone. -/
theorem keep_withdraw (hfunc : declaration.asFunc? = some state) (hwanted : wanted ∉ kept) :
    (declaration.withdraw wanted).keep kept = declaration.keep kept := by
  rw [keep_of_asFunc? (asFunc?_withdraw hfunc), keep_of_asFunc? hfunc, withdraw_of_asFunc? hfunc]
  congr 1
  · ext mark
    simp only [FlagSet.mem_sdiff, FlagSet.mem_singleton, Attributes.mem_storage,
      Attributes.mem_others]
    grind
  · simp only [Func.keep, Entity.func.injEq, Func.mk.injEq, true_and, and_true]
    ext guarantee
    simp only [FlagSet.mem_inter, FlagSet.mem_sdiff, FlagSet.mem_singleton]
    grind

/-- A declaration whose body decides is a function without the attribute so far. -/
theorem exists_of_status_undecided {config : Config}
    (hstatus : declaration.status config wanted = .undecided) :
    ∃ state, declaration.asFunc? = some state ∧ wanted.holdsIn declaration.storage = false ∧
      wanted ∉ state.concluded ∧ declaration.isRuledOut wanted = false ∧
      declaration.isTransparent state = true ∧ wanted ∈ config.inferable := by
  unfold status at hstatus
  cases hfunc : declaration.asFunc? with
  | none => simp [hfunc] at hstatus
  | some state =>
    refine ⟨state, rfl, ?_⟩
    simp only [hfunc] at hstatus
    split at hstatus
    · contradiction
    · split at hstatus
      · contradiction
      · split at hstatus
        · next hholds hopen htransparent =>
          simp only [Bool.or_eq_true, not_or, Bool.not_eq_true, Bool.and_eq_true] at *
          exact ⟨hholds, by simpa [FlagSet.mem_iff] using hopen.1, hopen.2, htransparent⟩
        · contradiction

/-- A conclusion about an undecided attribute decides it. -/
theorem status_conclude {config : Config}
    (hstatus : declaration.status config wanted = .undecided) (holds : Bool) :
    (declaration.conclude wanted holds).status config wanted =
      if holds then .holds else .fails := by
  obtain ⟨state, hfunc, hholds, -⟩ := exists_of_status_undecided hstatus
  unfold status
  rw [asFunc?_conclude hfunc]
  cases holds with
  | true =>
    have hgiven : wanted.holdsIn (declaration.conclude wanted true).storage = true := by
      rw [Attribute.holdsIn_iff, conclude_of_asFunc? hfunc]
      exact .inl (by simp)
    simp [hgiven]
  | false =>
    have hmissing : wanted.holdsIn (declaration.conclude wanted false).storage = false := by
      rw [conclude_of_asFunc? hfunc]
      exact hholds
    have hconcluded : (insert wanted state.concluded : Attributes).contains wanted = true :=
      FlagSet.mem_iff.mp (by simp)
    simp [hmissing, hconcluded]

end Declaration

namespace Arena

def keep (kept : Attributes) (arena : Arena) : Arena :=
  { arena with declarations := arena.declarations.map (Declaration.keep kept) }

variable {arena changed : Arena} {id : DeclId} {declaration : Declaration} {kept : Attributes}

@[simp]
theorem size_keep (kept : Attributes) : (arena.keep kept).size = arena.size := by
  simp [keep, size]

@[simp]
theorem get_keep : (arena.keep kept).get id = (arena.get id).map (Declaration.keep kept) := by
  simp only [get, keep, Array.getElem?_map]
  cases arena.declarations[id.number]? <;> rfl

theorem keep_keep {first second : Attributes} :
    (arena.keep first).keep second = arena.keep (first ∩ second) := by
  simp only [keep, Array.map_map]
  congr 2
  funext declaration
  exact Declaration.keep_keep

/-- The record holds no handles. -/
@[simp]
theorem closed_keep (kept : Attributes) : (arena.keep kept).Closed ↔ arena.Closed := by
  simp only [closed_iff, size_keep]
  simp [keep]

/-- A change that leaves the kept record of one declaration alone leaves that of the arena alone. -/
theorem keep_eq_of_modify {change : Declaration → Declaration}
    (hget : arena.get id = .ok declaration)
    (hkeep : (change declaration).keep kept = declaration.keep kept)
    (hchange : arena.modify id change = .ok changed) : changed.keep kept = arena.keep kept := by
  simp only [modify, lt_of_get hget, if_true, Except.ok.injEq] at hchange
  subst changed
  simp only [keep, mk.injEq, and_true]
  apply map_modify_of_look_eq
  intro found hfound
  rw [get_eq_ok_iff.mp hget, Option.some.injEq] at hfound
  rw [← hfound, hkeep]

/-- Function aliases are no part of the record. -/
@[simp]
theorem aliasedFunction_keep (kept : Attributes) :
    (arena.keep kept).aliasedFunction id = arena.aliasedFunction id := by
  apply aliasedFunction_congr (size_keep kept)
  intro current
  rw [get_keep]
  cases arena.get current <;> simp

/-! ### Arenas that differ in the record alone -/

theorem size_of_keep_eq (hkeep : changed.keep kept = arena.keep kept) :
    changed.size = arena.size :=
  calc
    changed.size = (changed.keep kept).size := (size_keep kept).symm
    _ = (arena.keep kept).size := by rw [hkeep]
    _ = arena.size := size_keep kept

theorem aggregates_of_keep_eq (hkeep : changed.keep kept = arena.keep kept) :
    changed.aggregates = arena.aggregates :=
  calc
    changed.aggregates = (changed.keep kept).aggregates := rfl
    _ = (arena.keep kept).aggregates := by rw [hkeep]
    _ = arena.aggregates := rfl

theorem nextSequence_of_keep_eq (hkeep : changed.keep kept = arena.keep kept) :
    changed.nextSequence = arena.nextSequence :=
  calc
    changed.nextSequence = (changed.keep kept).nextSequence := rfl
    _ = (arena.keep kept).nextSequence := by rw [hkeep]
    _ = arena.nextSequence := rfl

theorem closed_of_keep_eq (hkeep : changed.keep kept = arena.keep kept)
    (hclosed : arena.Closed) : changed.Closed := by
  apply (closed_keep kept).mp
  rw [hkeep]
  exact (closed_keep kept).mpr hclosed

theorem aliasedFunction_of_keep_eq (hkeep : changed.keep kept = arena.keep kept) (id : DeclId) :
    changed.aliasedFunction id = arena.aliasedFunction id :=
  calc
    changed.aliasedFunction id = (changed.keep kept).aliasedFunction id :=
      (aliasedFunction_keep kept).symm
    _ = (arena.keep kept).aliasedFunction id := by rw [hkeep]
    _ = arena.aliasedFunction id := aliasedFunction_keep kept

/-- Whether an effect breaks an attribute by itself does not depend on the record. -/
@[simp]
theorem breaksDirectly_keep {wanted : Attribute} {effect : Effect} :
    (arena.keep kept).breaksDirectly wanted effect = arena.breaksDirectly wanted effect := by
  apply breaksDirectly_congr
  · intro accessed
    cases hget : arena.get accessed <;>
      simp [hget, Declaration.meets_keep Attribute.flag_notMem_constant]
  · intro field
    cases hget : arena.get field <;> simp [asVariable?, hget]

end Arena

end Declarations
