import Declarations.Proofs.Inference.Operation
import Declarations.Proofs.Overload.TieBreak

/-!
# Overload resolution after inference

Inference records attributes in the storage class of a function, and resolution compares the storage
classes of two candidates to find out whether one of them defines what the other one declares.  For
a type system that ignores attributes nothing else in resolution depends on them, so inference
changes what calls go to exactly where it makes the storage classes of a declaration and of a
definition different, or equal.
-/

namespace Declarations

/-- Whether the answers of the type system do not depend on the attributes of a function. -/
def MatchOracle.IgnoresAttributes (oracle : MatchOracle) : Prop :=
  ∀ (signature : Signature) (storage : StorageClass),
    storage \ Attributes.storage FlagSet.full =
      signature.storage \ Attributes.storage FlagSet.full →
    oracle { signature with storage } = oracle signature

def Signature.keep (kept : Attributes) (signature : Signature) : Signature :=
  { signature with storage := signature.storage \ kept.others.storage }

theorem MatchOracle.IgnoresAttributes.keep_eq {oracle : MatchOracle}
    (horacle : oracle.IgnoresAttributes) (kept : Attributes) (signature : Signature) :
    oracle (signature.keep kept) = oracle signature := by
  apply horacle
  ext mark
  simp only [FlagSet.mem_sdiff, Attributes.mem_storage, Attributes.mem_others, FlagSet.mem_full,
    true_and]
  grind

namespace Declaration

variable {declaration left right : Declaration} {kept : Attributes} {id : DeclId}

@[simp]
theorem signature?_keep :
    (declaration.keep kept).signature? id =
      (declaration.signature? id).map (Signature.keep kept) := by
  cases hfunc : declaration.asFunc? with
  | none => simp [keep_of_asFunc?_eq_none hfunc, signature?, hfunc]
  | some state =>
    simp only [signature?, hfunc, Option.map_some, keep_of_asFunc? hfunc]
    rfl

@[simp]
theorem isConstructor_keep : (declaration.keep kept).isConstructor = declaration.isConstructor := by
  rw [isConstructor, asFunc?_keep, isConstructor]
  cases declaration.asFunc? <;> rfl

@[simp]
theorem overrides_keep : (declaration.keep kept).overrides id = declaration.overrides id := by
  rw [overrides, asFunc?_keep, overrides]
  cases declaration.asFunc? <;> rfl

@[simp]
theorem hasBody_keep : (declaration.keep kept).hasBody = declaration.hasBody := by
  rw [hasBody, asFunc?_keep, hasBody]
  cases declaration.asFunc? <;> rfl

/-- Modifiers are no part of the record. -/
@[simp]
theorem ofStorage_keep :
    Modifiers.ofStorage (declaration.keep kept).storage =
      Modifiers.ofStorage declaration.storage := by
  ext modifier
  rw [Modifiers.mem_ofStorage, Modifiers.mem_ofStorage]
  apply mem_storage_keep
  intro guarantee hflag
  cases guarantee <;> cases modifier <;> simp [Attribute.flag, Modifier.flag] at hflag

/-- Whether two declarations can be of one function, leaving aside their storage classes. -/
def resembles (left right : Declaration) : Bool :=
  Declaration.sameFunction { left with storage := right.storage } right

theorem sameFunction_eq :
    left.sameFunction right = (left.resembles right && decide (left.storage = right.storage)) := by
  simp only [sameFunction, resembles]
  grind

theorem resembles_comm : left.resembles right = right.resembles left := by
  simp only [sameFunction, resembles]
  grind

@[simp]
theorem resembles_keep : (left.keep kept).resembles (right.keep kept) = left.resembles right := by
  have hsame : ∀ declaration : Declaration, (declaration.keep kept).type = declaration.type ∧
      (declaration.keep kept).owner = declaration.owner ∧
      (declaration.keep kept).visibility = declaration.visibility ∧
      (declaration.keep kept).linkage = declaration.linkage := by
    intro declaration
    unfold keep
    split <;> exact ⟨rfl, rfl, rfl, rfl⟩
  simp [resembles, sameFunction, hsame]

/-! ### Declarations that differ in the record alone -/

theorem overrides_congr (hkeep : left.keep kept = right.keep kept) (id : DeclId) :
    left.overrides id = right.overrides id :=
  calc
    left.overrides id = (left.keep kept).overrides id := overrides_keep.symm
    _ = (right.keep kept).overrides id := by rw [hkeep]
    _ = right.overrides id := overrides_keep

theorem hasBody_congr (hkeep : left.keep kept = right.keep kept) : left.hasBody = right.hasBody :=
  calc
    left.hasBody = (left.keep kept).hasBody := hasBody_keep.symm
    _ = (right.keep kept).hasBody := by rw [hkeep]
    _ = right.hasBody := hasBody_keep

theorem resembles_congr {leftOther rightOther : Declaration}
    (hleft : left.keep kept = leftOther.keep kept)
    (hright : right.keep kept = rightOther.keep kept) :
    left.resembles right = leftOther.resembles rightOther :=
  calc
    left.resembles right = (left.keep kept).resembles (right.keep kept) := resembles_keep.symm
    _ = (leftOther.keep kept).resembles (rightOther.keep kept) := by rw [hleft, hright]
    _ = leftOther.resembles rightOther := resembles_keep

/-- Whether one of two declarations defines what the other one declares is a matter of their storage
classes if it is possible at all. -/
theorem sameFunction_congr {leftOther rightOther : Declaration}
    (hleft : left.keep kept = leftOther.keep kept)
    (hright : right.keep kept = rightOther.keep kept)
    (hstorage : left.resembles right = true → left.hasBody ≠ right.hasBody →
      (leftOther.storage = rightOther.storage ↔ left.storage = right.storage)) :
    (leftOther.sameFunction rightOther && left.hasBody != right.hasBody) =
      (left.sameFunction right && left.hasBody != right.hasBody) := by
  rw [sameFunction_eq, sameFunction_eq, ← resembles_congr hleft hright]
  cases hresembles : left.resembles right with
  | false => rfl
  | true =>
    by_cases hbodies : left.hasBody = right.hasBody
    · simp [hbodies]
    · simp only [hstorage hresembles hbodies]

end Declaration

namespace Arena

variable {arena before after : Arena} {kept : Attributes} {oracle : MatchOracle}
  {id source target candidate : DeclId}

@[simp]
theorem needsObject_keep : (arena.keep kept).needsObject id = arena.needsObject id := by
  simp only [needsObject, get_keep, aliasedFunction_keep, map_bind, Declaration.objectOf?_keep]
  cases arena.get id with
  | error fault => rfl
  | ok declaration =>
    simp only [ok_bind]
    cases hfunc : declaration.asFunc? with
    | none => rw [Declaration.keep_of_asFunc?_eq_none hfunc]
    | some state =>
      rw [Declaration.keep_of_asFunc? hfunc]
      simp only [Declaration.entity_of_asFunc? hfunc]

@[simp]
theorem objectFor_keep {object : Option TypeRef} :
    (arena.keep kept).objectFor id object = arena.objectFor id object := by
  simp only [objectFor, needsObject_keep, get_keep, map_bind, Declaration.isConstructor_keep]

@[simp]
theorem objectsClash_keep :
    (arena.keep kept).objectsClash source target = arena.objectsClash source target := by
  simp only [objectsClash, needsObject_keep, get_keep, map_bind, objectConverts,
    Declaration.isConstructor_keep, Declaration.ofStorage_keep]

@[simp]
theorem signature?_keep :
    (arena.keep kept).signature? id =
      (arena.signature? id).map (Option.map (Signature.keep kept)) := by
  simp only [signature?, get_keep, map_bind, Declaration.signature?_keep]
  cases arena.get id <;> rfl

/-- How well a candidate fits does not depend on the record. -/
theorem fit_keep (horacle : oracle.IgnoresAttributes) (object : Option TypeRef)
    (arguments : List Argument) :
    (arena.keep kept).fit oracle object arguments candidate =
      arena.fit oracle object arguments candidate := by
  simp only [fit, signature?_keep, objectFor_keep]
  cases arena.signature? candidate with
  | error fault => rfl
  | ok given =>
    cases given with
    | none => rfl
    | some signature => simp [horacle.keep_eq]

theorem asSpecialized_keep (horacle : oracle.IgnoresAttributes) :
    (arena.keep kept).asSpecialized oracle source target =
      arena.asSpecialized oracle source target := by
  simp only [asSpecialized, signature?_keep, objectsClash_keep]
  cases arena.signature? source with
  | error fault => rfl
  | ok sourceGiven =>
    cases arena.signature? target with
    | error fault => rfl
    | ok targetGiven =>
      cases sourceGiven with
      | none => rfl
      | some sourceSignature =>
        cases targetGiven with
        | none => rfl
        | some targetSignature =>
          simp only [ok_map, ok_bind, Option.map_some, horacle.keep_eq]
          rfl

/-! ## A declaration and its definition -/

/-- One function without a body and one with a body, neither of which overrides the other, that can
be a declaration and the definition of one function if their storage classes are the same. -/
def Counterparts (arena : Arena) (declared defined : DeclId) : Prop :=
  ∃ declaration definition, arena.get declared = .ok declaration ∧
    arena.get defined = .ok definition ∧ declaration.hasBody = false ∧ definition.hasBody = true ∧
    declaration.overrides defined = false ∧ definition.overrides declared = false ∧
    declaration.resembles definition = true

def SameStorage (arena : Arena) (left right : DeclId) : Prop :=
  (arena.get left).map Declaration.storage = (arena.get right).map Declaration.storage

theorem sameStorage_iff_of_get {leftDeclaration rightDeclaration : Declaration}
    (hleft : arena.get source = .ok leftDeclaration)
    (hright : arena.get target = .ok rightDeclaration) :
    arena.SameStorage source target ↔ leftDeclaration.storage = rightDeclaration.storage := by
  simp [SameStorage, hleft, hright]

theorem sameStorage_comm : arena.SameStorage source target ↔ arena.SameStorage target source :=
  eq_comm

theorem asSpecialized_congr (hkeep : after.keep kept = before.keep kept)
    (horacle : oracle.IgnoresAttributes) (source target : DeclId) :
    after.asSpecialized oracle source target = before.asSpecialized oracle source target :=
  calc
    after.asSpecialized oracle source target =
        (after.keep kept).asSpecialized oracle source target := (asSpecialized_keep horacle).symm
    _ = (before.keep kept).asSpecialized oracle source target := by rw [hkeep]
    _ = before.asSpecialized oracle source target := asSpecialized_keep horacle

/-- Nothing but the storage classes of a declaration and its definition can make two candidates that
fit equally well compare differently than before. -/
theorem breakTie_congr (hkeep : after.keep kept = before.keep kept)
    (horacle : oracle.IgnoresAttributes) (hsource : source.number < before.size)
    (htarget : target.number < before.size)
    (hforth : before.Counterparts source target →
      (after.SameStorage source target ↔ before.SameStorage source target))
    (hback : before.Counterparts target source →
      (after.SameStorage target source ↔ before.SameStorage target source)) :
    after.breakTie oracle source target = before.breakTie oracle source target := by
  obtain ⟨challenging, hchallenging⟩ := exists_get hsource
  obtain ⟨holding, hholding⟩ := exists_get htarget
  obtain ⟨challengingAfter, hchallengingAfter, hchallengingKeep⟩ :=
    exists_get_of_keep_eq hkeep.symm hchallenging
  obtain ⟨holdingAfter, hholdingAfter, hholdingKeep⟩ :=
    exists_get_of_keep_eq hkeep.symm hholding
  rw [breakTie_of_get hchallengingAfter hholdingAfter, breakTie_of_get hchallenging hholding,
    ← Declaration.overrides_congr hchallengingKeep, ← Declaration.overrides_congr hholdingKeep,
    ← Declaration.hasBody_congr hchallengingKeep, ← Declaration.hasBody_congr hholdingKeep,
    asSpecialized_congr hkeep horacle, asSpecialized_congr hkeep horacle]
  cases holdingFirst : holding.overrides source with
  | true => rfl
  | false =>
    cases challengingFirst : challenging.overrides target with
    | true => rfl
    | false =>
      rw [Declaration.sameFunction_congr hchallengingKeep hholdingKeep]
      intro hresembles hbodies
      rw [← sameStorage_iff_of_get hchallengingAfter hholdingAfter,
        ← sameStorage_iff_of_get hchallenging hholding]
      -- The one without a body is the declaration.
      cases hbody : challenging.hasBody with
      | false =>
        have hother : holding.hasBody = true := by simpa [hbody] using hbodies
        exact hforth ⟨challenging, holding, hchallenging, hholding, hbody, hother,
          challengingFirst, holdingFirst, hresembles⟩
      | true =>
        have hother : holding.hasBody = false := by simpa [hbody] using hbodies
        rw [Declaration.resembles_comm] at hresembles
        rw [sameStorage_comm, hback ⟨holding, challenging, hholding, hchallenging, hother, hbody,
          holdingFirst, challengingFirst, hresembles⟩, sameStorage_comm]

/-- The storage classes of every declaration and its definition among the given functions are the
same exactly if they were before. -/
def AgreesOn (after before : Arena) (functions : List DeclId) : Prop :=
  ∀ declared ∈ functions, ∀ defined ∈ functions, before.Counterparts declared defined →
    (after.SameStorage declared defined ↔ before.SameStorage declared defined)

theorem fit_congr (hkeep : after.keep kept = before.keep kept) (horacle : oracle.IgnoresAttributes)
    (object : Option TypeRef) (arguments : List Argument) (candidate : DeclId) :
    after.fit oracle object arguments candidate = before.fit oracle object arguments candidate :=
  calc
    after.fit oracle object arguments candidate =
        (after.keep kept).fit oracle object arguments candidate := (fit_keep horacle _ _).symm
    _ = (before.keep kept).fit oracle object arguments candidate := by rw [hkeep]
    _ = before.fit oracle object arguments candidate := fit_keep horacle _ _

/-- A candidate is weighed as before when the best one so far is among the given functions. -/
theorem weigh_congr {functions : List DeclId} (hkeep : after.keep kept = before.keep kept)
    (horacle : oracle.IgnoresAttributes)
    (hfunctions : ∀ function ∈ functions, function.number < before.size)
    (hagrees : AgreesOn after before functions) (hcandidate : candidate ∈ functions)
    {resolution : Resolution} (hwinner : ∀ winner ∈ resolution.winner, winner ∈ functions)
    (templateArguments : Option (List TemplateArgument)) (object : Option TypeRef)
    (arguments : List Argument) :
    after.weigh oracle templateArguments object arguments resolution candidate =
      before.weigh oracle templateArguments object arguments resolution candidate := by
  have hchallenge : ∀ level,
      after.challenge oracle (resolution.meet candidate) candidate level =
        before.challenge oracle (resolution.meet candidate) candidate level := by
    intro level
    unfold challenge
    cases hholder : (resolution.meet candidate).winner with
    | none => rfl
    | some holder =>
      have hholder : holder ∈ functions := hwinner holder hholder
      simp only
      rw [breakTie_congr hkeep horacle (hfunctions candidate hcandidate)
        (hfunctions holder hholder) (hagrees candidate hcandidate holder hholder)
        (hagrees holder hholder candidate hcandidate)]
  simp only [weigh, consider_eq, fit_congr hkeep horacle, hchallenge]

/-- A call goes to the same function as before when declarations and their definitions are told
apart as before. -/
theorem resolve_congr (hclosed : before.Closed) (hkeep : after.keep kept = before.keep kept)
    {start : DeclId} (hstart : start.number < before.size) {functions : List DeclId}
    (hcandidates : before.candidates start = .ok functions)
    (hagrees : AgreesOn after before functions) (horacle : oracle.IgnoresAttributes)
    (templateArguments : Option (List TemplateArgument)) (object : Option TypeRef)
    (arguments : List Argument) :
    after.resolve oracle start templateArguments object arguments =
      before.resolve oracle start templateArguments object arguments := by
  have hafter := closed_of_keep_eq hkeep hclosed
  have hsize := size_of_keep_eq hkeep
  obtain ⟨found, hfound, -, hfunctions, hsearch⟩ := hclosed.exists_search hstart
  have hlt : ∀ function ∈ found, function.number < before.size :=
    fun function hmem => (hfunctions function hmem).lt
  obtain ⟨foundAfter, hfoundAfter, -, -, hsearchAfter⟩ := hafter.exists_search (hsize ▸ hstart)
  obtain rfl : found = functions := Except.ok.inj (hfound.symm.trans hcandidates)
  obtain rfl : foundAfter = found := by
    rw [← candidates_keep, hkeep, candidates_keep, hfound] at hfoundAfter
    exact (Except.ok.inj hfoundAfter).symm
  have hstep : ∀ resolution : Resolution, (∀ winner ∈ resolution.winner, winner ∈ foundAfter) →
      ∀ candidate ∈ foundAfter, ∃ next,
        after.weigh oracle templateArguments object arguments resolution candidate = .ok next ∧
        before.weigh oracle templateArguments object arguments resolution candidate = .ok next ∧
        ∀ winner ∈ next.winner, winner ∈ foundAfter := by
    intro resolution hwinner candidate hcandidate
    obtain ⟨next, hnext, hbest⟩ := hclosed.weigh (hlt candidate hcandidate)
      (fun winner hmem => hlt winner (hwinner winner hmem)) oracle templateArguments object
      arguments
    refine ⟨next, ?_, hnext, fun winner hmem => ?_⟩
    · rw [weigh_congr hkeep horacle hlt hagrees hcandidate hwinner, hnext]
    · rcases hbest winner hmem with rfl | hold
      · exact hcandidate
      · exact hwinner winner hold
  have hinitial : ∀ winner ∈ ({} : Resolution).winner, winner ∈ foundAfter := by simp
  obtain ⟨resolution, hlast, hlastBefore, -⟩ := exists_foldlM hstep hinitial
  rw [hsearchAfter, hsearch, hlast, hlastBefore]

end Arena

end Declarations
