import Declarations.Arena.Copy
import Declarations.Proofs.Inference.Evolution

/-!
# What is written stays apart from what is inferred

Inference marks the attributes of a function in the same set that holds what is written in the
source.  It notes which of the marks are its own, so what is written can always be told: it is the
rest.  No operation changes that rest, and a copy, which takes nothing else, does not show whether
it was made before or after the operations.
-/

namespace Declarations

open Relation

namespace Declaration

/-- The properties of a declaration that are not inferred. -/
def writtenStorage (declaration : Declaration) : StorageClass :=
  declaration.storage \ declaration.inferredStorage

variable {declaration next : Declaration} {state : Func} {config : Config} {wanted : Attribute}
  {mark : StorageFlag}

theorem inferredStorage_of_asFunc? (hfunc : declaration.asFunc? = some state) :
    declaration.inferredStorage = state.inferred.storage := by
  rw [inferredStorage, hfunc]

/-- Trust is never inferred. -/
theorem notMem_inferredStorage (hmark : ∀ guarantee : Attribute, guarantee.flag ≠ mark) :
    mark ∉ declaration.inferredStorage := by
  cases hfunc : declaration.asFunc? with
  | none => simp [inferredStorage, hfunc]
  | some state =>
    rw [inferredStorage_of_asFunc? hfunc, Attributes.mem_storage]
    rintro ⟨guarantee, -, hflag⟩
    exact hmark guarantee hflag

/-! ## Changes -/

/-- An attribute that is concluded was not marked before, and its mark is noted as inferred. -/
theorem writtenStorage_conclude (holds : Bool)
    (hundecided : declaration.status config wanted = .undecided) :
    (declaration.conclude wanted holds).writtenStorage = declaration.writtenStorage := by
  obtain ⟨state, hfunc, hholds, -⟩ := exists_of_status_undecided hundecided
  have hunmarked : wanted.flag ∉ declaration.storage := by
    intro hmem
    rw [Attribute.holdsIn_iff.mpr (.inl hmem)] at hholds
    contradiction
  rw [writtenStorage, writtenStorage, inferredStorage_of_asFunc? (asFunc?_conclude hfunc holds),
    inferredStorage_of_asFunc? hfunc, conclude_of_asFunc? hfunc]
  cases holds with
  | false => rfl
  | true =>
    ext mark
    simp only [if_true, FlagSet.mem_sdiff, FlagSet.mem_insert, Attributes.mem_storage]
    constructor
    · rintro ⟨rfl | hmem, hnot⟩
      · exact absurd ⟨wanted, .inl rfl, rfl⟩ hnot
      · refine ⟨hmem, ?_⟩
        rintro ⟨guarantee, hinferred, hflag⟩
        exact hnot ⟨guarantee, .inr hinferred, hflag⟩
    · rintro ⟨hmem, hnot⟩
      refine ⟨.inr hmem, ?_⟩
      rintro ⟨guarantee, rfl | hinferred, hflag⟩
      · exact hunmarked (hflag ▸ hmem)
      · exact hnot ⟨guarantee, hinferred, hflag⟩

/-- An attribute that is taken back was inferred, and its mark goes with the note. -/
theorem writtenStorage_withdraw (hwithdrawable : declaration.isWithdrawable wanted = true) :
    (declaration.withdraw wanted).writtenStorage = declaration.writtenStorage := by
  obtain ⟨state, hfunc, hinferred, -⟩ := exists_of_isWithdrawable hwithdrawable
  rw [writtenStorage, writtenStorage, inferredStorage_of_asFunc? (asFunc?_withdraw hfunc),
    inferredStorage_of_asFunc? hfunc, withdraw_of_asFunc? hfunc]
  ext mark
  simp only [FlagSet.mem_sdiff, FlagSet.mem_singleton, Attributes.mem_storage]
  constructor
  · rintro ⟨⟨hmem, hother⟩, hnot⟩
    refine ⟨hmem, ?_⟩
    rintro ⟨guarantee, hguarantee, rfl⟩
    exact hnot ⟨guarantee, ⟨hguarantee, fun hsame => hother (hsame ▸ rfl)⟩, rfl⟩
  · rintro ⟨hmem, hnot⟩
    constructor
    · refine ⟨hmem, ?_⟩
      rintro rfl
      exact hnot ⟨wanted, hinferred, rfl⟩
    · rintro ⟨guarantee, ⟨hguarantee, -⟩, hflag⟩
      exact hnot ⟨guarantee, hguarantee, hflag⟩

/-- A change of the state of a function that keeps its inferred attributes keeps what is written. -/
theorem writtenStorage_mapFunc {change : Func → Func}
    (hchange : ∀ state, (change state).inferred = state.inferred) :
    (declaration.mapFunc change).writtenStorage = declaration.writtenStorage := by
  rw [writtenStorage, writtenStorage, storage_mapFunc, inferredStorage, inferredStorage,
    asFunc?_mapFunc]
  cases declaration.asFunc? <;> simp [hchange]

/-- No change touches what is written. -/
theorem Revises.writtenStorage_eq (hrevises : Revises config declaration next) :
    next.writtenStorage = declaration.writtenStorage := by
  cases hrevises with
  | concluded holds undecided => exact writtenStorage_conclude holds undecided
  | withdrawn withdrawable => exact writtenStorage_withdraw withdrawable
  | extended effect => exact writtenStorage_mapFunc fun _ => rfl
  | marked same =>
    have hunmarked : ∀ found : Declaration, found.unmarked.writtenStorage = found.writtenStorage :=
      fun _ => writtenStorage_mapFunc fun _ => rfl
    rw [← hunmarked, same, hunmarked]

/-- Marks come and go only for the attributes. -/
theorem Revises.mem_storage_iff (hrevises : Revises config declaration next)
    (hmark : ∀ guarantee : Attribute, guarantee.flag ≠ mark) :
    mark ∈ next.storage ↔ mark ∈ declaration.storage := by
  have hkeep : ∀ found : Declaration, mark ∈ (found.keep ∅).storage ↔ mark ∈ found.storage :=
    fun _ => mem_storage_keep fun guarantee hflag => absurd hflag (hmark guarantee)
  exact iff_of_eq (hrevises.observe_eq (mark ∈ ·.storage) (fun found => propext (hkeep found))
    fun _ _ _ => by rw [storage_mapFunc])

/-- Only functions change their marks. -/
theorem Revises.storage_eq (hrevises : Revises config declaration next)
    (hfunction : declaration.isFunction = false) : next.storage = declaration.storage := by
  have hfunc : declaration.asFunc? = none := by simpa [isFunction] using hfunction
  cases hrevises with
  | concluded holds undecided =>
    obtain ⟨state, hsome, -⟩ := exists_of_status_undecided undecided
    rw [hfunc] at hsome
    contradiction
  | withdrawn withdrawable =>
    obtain ⟨state, hsome, -⟩ := exists_of_isWithdrawable withdrawable
    rw [hfunc] at hsome
    contradiction
  | extended effect => exact storage_mapFunc
  | marked same => rw [← storage_unmarked, same, storage_unmarked]

theorem Revises.isFunction_eq (hrevises : Revises config declaration next) :
    next.isFunction = declaration.isFunction :=
  hrevises.observe_eq _ (fun _ => isFunction_keep) fun _ _ _ => isFunction_mapFunc

/-- What a run keeps of the marks of a declaration. -/
structure KeepsWritten (declaration next : Declaration) : Prop where
  written_eq : next.writtenStorage = declaration.writtenStorage
  mem_iff : ∀ mark, (∀ guarantee : Attribute, guarantee.flag ≠ mark) →
    (mark ∈ next.storage ↔ mark ∈ declaration.storage)
  /-- Trust is never inferred. -/
  untrusted : .trusted ∉ next.inferredStorage
  storage_eq : declaration.isFunction = false → next.storage = declaration.storage

theorem keepsWritten_of_revises (hrevises : ReflTransGen (Revises config) declaration next) :
    declaration.KeepsWritten next := by
  have huntrusted : ∀ found : Declaration, .trusted ∉ found.inferredStorage := fun found =>
    notMem_inferredStorage (by intro guarantee; cases guarantee <;> simp [Attribute.flag])
  have hrun : next.isFunction = declaration.isFunction ∧ declaration.KeepsWritten next := by
    induction hrevises with
    | refl => exact ⟨rfl, rfl, fun _ _ => Iff.rfl, huntrusted declaration, fun _ => rfl⟩
    | @tail middle next _ hstep ih =>
      obtain ⟨hfunction, hkept⟩ := ih
      refine ⟨hstep.isFunction_eq.trans hfunction, hstep.writtenStorage_eq.trans hkept.written_eq,
        fun mark hmark => (hstep.mem_storage_iff hmark).trans (hkept.mem_iff mark hmark),
        huntrusted next, fun hother => ?_⟩
      exact (hstep.storage_eq (hfunction.trans hother)).trans (hkept.storage_eq hother)
  exact hrun.2

/-! ## Copies -/

/-- What a copy takes is what is written, and what inference never writes. -/
theorem asWritten_eq_keep : declaration.asWritten =
    { (declaration.keep ∅).asWritten with storage := declaration.writtenStorage } := by
  cases hfunc : declaration.asFunc? with
  | none =>
    rw [keep_of_asFunc?_eq_none hfunc]
    rfl
  | some state =>
    rw [keep_of_asFunc? hfunc]
    simp only [asWritten, entity_of_asFunc? hfunc]
    rfl

theorem asTuple?_asWritten : declaration.asWritten.asTuple? = declaration.asTuple? := by
  cases hentity : declaration.entity <;> simp [asTuple?, asWritten, hentity, Entity.asWritten]

end Declaration

namespace Arena

variable {arena before after : Arena} {config : Config} {id : DeclId} {declaration : Declaration}

/-- A declaration that is no tuple is copied alone. -/
theorem copy_of_asTuple?_eq_none (hget : arena.get id = .ok declaration)
    (htuple : declaration.asTuple? = none) :
    arena.copy id = arena.tryAdd declaration.asWritten := by
  simp only [copy, copyWithin, hget, ok_bind, htuple, pure_eq_ok]
  exact bind_pure _

/-- Two arenas make the same copy of a declaration, or neither has room for it. -/
def CopiesAlike (before after : Arena) (id : DeclId) : Prop :=
  (before.size < capacity → ∃ copied made copiedBefore copiedAfter,
    before.copy id = .ok (copied, copiedBefore) ∧ after.copy id = .ok (copied, copiedAfter) ∧
    copiedBefore.get copied = .ok made ∧ copiedAfter.get copied = .ok made) ∧
  (capacity ≤ before.size → before.copy id = .error .noRoom ∧ after.copy id = .error .noRoom)

/-- Arenas that differ in the record of attributes alone, and agree on what is written, make the
same copies. -/
theorem copiesAlike_of_keep_eq (hkeep : after.keep ∅ = before.keep ∅)
    (hevolves : Evolves config before after) (hget : before.get id = .ok declaration)
    (htuple : declaration.asTuple? = none) :
    before.CopiesAlike after id := by
  obtain ⟨next, hnext, hrevises⟩ := hevolves.revises id declaration hget
  have houtline : next.keep ∅ = declaration.keep ∅ := by
    have hsame : (after.keep ∅).get id = (before.keep ∅).get id := by rw [hkeep]
    rwa [get_keep, get_keep, hnext, hget, ok_map, ok_map, Except.ok.injEq] at hsame
  have hwritten : next.asWritten = declaration.asWritten := by
    rw [Declaration.asWritten_eq_keep, houtline,
      (Declaration.keepsWritten_of_revises hrevises).written_eq, ← Declaration.asWritten_eq_keep]
  have hnextTuple : next.asTuple? = none := by
    rw [← Declaration.asTuple?_asWritten, hwritten, Declaration.asTuple?_asWritten, htuple]
  have hsequence : after.nextSequence = before.nextSequence := nextSequence_of_keep_eq hkeep
  have hcopy := copy_of_asTuple?_eq_none hget htuple
  have hcopied := copy_of_asTuple?_eq_none hnext hnextTuple
  rw [CopiesAlike, hcopy, hcopied]
  refine ⟨fun hroom => ?_, fun hfull => ?_⟩
  · have hhandle : (after.add next.asWritten).1 = (before.add declaration.asWritten).1 := by
      simp only [add, hevolves.size_eq]
    refine ⟨(before.add declaration.asWritten).1, _, (before.add declaration.asWritten).2,
      (after.add next.asWritten).2, tryAdd_of_lt _ hroom, ?_, get_add_self before _, ?_⟩
    · rw [tryAdd_of_lt _ (hevolves.size_eq ▸ hroom), ← hhandle]
    · rw [← hhandle, get_add_self, hwritten, hsequence]
  · exact ⟨tryAdd_of_le _ hfull, tryAdd_of_le _ (hevolves.size_eq ▸ hfull)⟩

end Arena

namespace Operation

def keepsBodies : Operation → Bool
  | infer _ _ | inferAll _ | verify _ | downgrade _ _ _ => true
  | recordEffect _ _ | checkClosure _ => false

end Operation

namespace Session

open Arena

variable {session after : Session} {config : Config} {operation : Operation}
  {operations : List Operation}

/-- An operation that leaves the bodies alone changes nothing but the record of attributes. -/
theorem Performed.outline_eq (hperformed : session.Performed config operation after)
    (hkeeps : operation.keepsBodies = true) : after.arena.keep ∅ = session.arena.keep ∅ := by
  cases hperformed with
  | queried _ follows => exact follows.grows.outline_eq
  | downgraded _ downgraded => exact downgraded.outline_eq
  | recorded | closureChecked => contradiction

/-- So does a sequence of such operations. -/
theorem outline_of_run (hidle : session.Idle)
    (hhandles : ∀ operation ∈ operations, ∀ handle ∈ operation.handles,
      handle.number < session.arena.size)
    (hkeeps : ∀ operation ∈ operations, operation.keepsBodies = true)
    (hrun : session.run config operations = .ok after) :
    after.arena.keep ∅ = session.arena.keep ∅ := by
  induction operations generalizing session with
  | nil =>
    obtain rfl := Except.ok.inj hrun
    rfl
  | cons operation operations ih =>
    obtain ⟨hfirst, hothers⟩ := List.forall_mem_cons.mp hkeeps
    obtain ⟨middle, hperform, hmiddle, hperformed⟩ := exists_performed config hidle
      (hhandles operation List.mem_cons_self)
    rw [run_cons, hperform, ok_bind] at hrun
    have hrest : after.arena.keep ∅ = middle.arena.keep ∅ := by
      refine ih hmiddle (fun other hother => ?_) hothers hrun
      rw [hperformed.evolves.size_eq]
      exact hhandles other (List.mem_cons_of_mem operation hother)
    exact hrest.trans (hperformed.outline_eq hfirst)

/-- No run changes what is written: the marks of a declaration that are not noted as inferred.  Only
the marks of inferable attributes come and go, only on functions, and trust is not among them.  So
after a run that leaves the bodies alone, the copy of a declaration that is no tuple is the one that
would have been made before. -/
theorem run_keepsWritten (config : Config) {arena : Arena} (hclosed : arena.Closed)
    (hhandles : ∀ operation ∈ operations, ∀ handle ∈ operation.handles,
      handle.number < arena.size) :
    ∃ after, run config { arena } operations = .ok after ∧
      (∀ id declaration, arena.get id = .ok declaration →
        ∃ next, after.arena.get id = .ok next ∧ declaration.KeepsWritten next) ∧
      ((∀ operation ∈ operations, operation.keepsBodies = true) →
        ∀ id declaration, arena.get id = .ok declaration → declaration.asTuple? = none →
          arena.CopiesAlike after.arena id) := by
  have hidle : Session.Idle { arena } := ⟨rfl, hclosed⟩
  obtain ⟨after, hrun, -, hevolves⟩ := run_evolves config hidle hhandles
  refine ⟨after, hrun, fun id declaration hget => ?_, fun hkeeps id declaration hget htuple => ?_⟩
  · obtain ⟨next, hnext, hrevises⟩ := hevolves.revises id declaration hget
    exact ⟨next, hnext, Declaration.keepsWritten_of_revises hrevises⟩
  · have houtline := outline_of_run hidle hhandles hkeeps hrun
    exact copiesAlike_of_keep_eq houtline hevolves hget htuple

theorem run_keepsWritten_throwingCycle :
    throwingCycle.Closed ∧
    ∃ after, run {} { arena := throwingCycle } [.inferAll ⟨1⟩, .downgrade ⟨0⟩ .purity none] =
        .ok after ∧
      (∀ id declaration, throwingCycle.get id = .ok declaration →
        ∃ next, after.arena.get id = .ok next ∧ declaration.KeepsWritten next) ∧
      ((∀ operation ∈ [Operation.inferAll ⟨1⟩, .downgrade ⟨0⟩ .purity none],
          operation.keepsBodies = true) →
        ∀ id declaration, throwingCycle.get id = .ok declaration → declaration.asTuple? = none →
          throwingCycle.CopiesAlike after.arena id) := by
  have hclosed : throwingCycle.Closed := by decide
  exact ⟨hclosed, run_keepsWritten {} hclosed (by decide)⟩

end Session

end Declarations
