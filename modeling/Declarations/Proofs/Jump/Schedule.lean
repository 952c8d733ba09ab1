import Mathlib.Data.List.Find
import Mathlib.Data.List.Induction
import Declarations.Proofs.Jump.Body

/-!
# Which step checks which jump

The jumps and labels of a function come one after the other, and from time to time the waiting jumps
are resolved.  The order of these steps says when each jump is checked: at once if its label is
declared by then, and otherwise by the first resolving step behind the label.  This is said here of
the list of steps alone, without the function that they belong to.
-/

namespace Declarations

inductive JumpStep where
  | jumpTo (jump : PendingJump)
  | declareLabel (name : Name) (span : Span) (cursor : ScopeCursor)
  | resolveJumps

namespace JumpStep

def jump? : JumpStep → Option PendingJump
  | .jumpTo jump => some jump
  | .declareLabel _ _ _ | .resolveJumps => none

def label? : JumpStep → Option Name
  | .declareLabel name _ _ => some name
  | .jumpTo _ | .resolveJumps => none

def last? : JumpStep → Option DeclId
  | .jumpTo jump => jump.lastVariable
  | .declareLabel _ _ cursor => cursor.last
  | .resolveJumps => none

def isResolve : JumpStep → Bool
  | .resolveJumps => true
  | .jumpTo _ | .declareLabel _ _ _ => false

def place? (name : Name) : JumpStep → Option LabelPlace
  | .declareLabel other span cursor => if other = name then some ⟨span, cursor.last⟩ else none
  | .jumpTo _ | .resolveJumps => none

def placeIn? (steps : List JumpStep) (name : Name) : Option LabelPlace :=
  steps.findSome? (place? name)

def declares (steps : List JumpStep) (name : Name) : Bool :=
  (placeIn? steps name).isSome

/-- Whether the step with this number can check a jump that comes with the step numbered `issue`:
it is that step or a later one that resolves, and the label of the jump is declared before it. -/
def canCheck (steps : List JumpStep) (issue : Nat) (name : Name) (number : Nat) : Bool :=
  issue ≤ number && (number = issue || steps[number]?.any isResolve) &&
    declares (steps.take number) name

/-- The number of the step that checks a jump: the first that can. -/
def checkedBy? (steps : List JumpStep) (issue : Nat) (name : Name) : Option Nat :=
  (List.range steps.length).find? (canCheck steps issue name)

/-- The label of a jump is declared before the jump, or before some later step that resolves. -/
def IsDue (steps : List JumpStep) (issue : Nat) (name : Name) : Prop :=
  declares (steps.take issue) name ∨
    ∃ number > issue, steps[number]? = some .resolveJumps ∧ declares (steps.take number) name

def issued (steps : List JumpStep) : List (PendingJump × Nat) :=
  steps.zipIdx.filterMap fun (step, number) => step.jump?.map fun jump => (jump, number)

/-- The jumps that are checked by the step with the given number, or those that no step checks, in
the order in which they come. -/
def jumpsFor (steps : List JumpStep) (check : Option Nat) : List PendingJump :=
  ((issued steps).filter fun entry => checkedBy? steps entry.2 entry.1.label = check).map Prod.fst

variable {earlier steps : List JumpStep} {step : JumpStep} {jump : PendingJump} {name : Name}
  {place : LabelPlace} {issue number : Nat}

/-! ## Labels -/

theorem placeIn?_concat : placeIn? (earlier ++ [step]) name =
    (placeIn? earlier name).or (step.place? name) := by
  simp [placeIn?, List.findSome?_append]

theorem placeIn?_concat_of_eq_some (hplace : placeIn? earlier name = some place) :
    placeIn? (earlier ++ [step]) name = some place := by
  rw [placeIn?_concat, hplace, Option.some_or]

/-- A step without a label changes nothing about the places. -/
theorem placeIn?_concat_of_label?_eq_none (hlabel : step.label? = none) :
    placeIn? (earlier ++ [step]) name = placeIn? earlier name := by
  cases step with
  | jumpTo _ | resolveJumps => rw [placeIn?_concat, place?, Option.or_none]
  | declareLabel _ _ _ => contradiction

/-- The place of a label comes from the step that declares it. -/
theorem exists_label_of_placeIn? (hplace : placeIn? steps name = some place) :
    ∃ cursor, .declareLabel name place.span cursor ∈ steps ∧ place.lastVariable = cursor.last := by
  obtain ⟨step, hmem, hstep⟩ := List.exists_of_findSome?_eq_some hplace
  cases step with
  | jumpTo _ | resolveJumps => contradiction
  | declareLabel other span cursor =>
    rw [place?] at hstep
    split at hstep
    · next hname =>
      cases hstep
      exact ⟨cursor, hname ▸ hmem, rfl⟩
    · contradiction

theorem placeIn?_eq_none (hnew : name ∉ steps.filterMap label?) : placeIn? steps name = none := by
  apply List.findSome?_eq_none_iff.mpr
  intro step hstep
  cases step with
  | jumpTo _ | resolveJumps => rfl
  | declareLabel other span cursor =>
    rw [place?, if_neg]
    rintro rfl
    exact hnew (List.mem_filterMap.mpr ⟨_, hstep, rfl⟩)

/-! ## Checks -/

theorem canCheck_concat_of_lt (hnumber : number < earlier.length) :
    canCheck (earlier ++ [step]) issue name number = canCheck earlier issue name number := by
  rw [canCheck, canCheck, List.getElem?_append_left hnumber,
    List.take_append_of_le_length (Nat.le_of_lt hnumber)]

theorem checkedBy?_concat : checkedBy? (earlier ++ [step]) issue name =
    (checkedBy? earlier issue name).or
      (if canCheck (earlier ++ [step]) issue name earlier.length then some earlier.length
        else none) := by
  have hsame : (List.range earlier.length).find? (canCheck (earlier ++ [step]) issue name) =
      checkedBy? earlier issue name :=
    List.find?_congr fun number hnumber => canCheck_concat_of_lt (List.mem_range.mp hnumber)
  rw [checkedBy?, List.length_append, List.length_singleton, List.range_succ, List.find?_append,
    hsame, List.find?_singleton]

/-- One more step checks an earlier jump if it resolves, and the jump was not checked before. -/
theorem checkedBy?_concat_of_lt (hissue : issue < earlier.length) :
    checkedBy? (earlier ++ [step]) issue name = (checkedBy? earlier issue name).or
      (if step.isResolve && declares earlier name then some earlier.length else none) := by
  have hle : issue ≤ earlier.length := Nat.le_of_lt hissue
  have hne : earlier.length ≠ issue := Nat.ne_of_gt hissue
  simp [checkedBy?_concat, canCheck, hle, hne]

/-- One more step checks its own jump if the label is declared. -/
theorem checkedBy?_concat_self : checkedBy? (earlier ++ [step]) earlier.length name =
    if declares earlier name then some earlier.length else none := by
  have hnone : checkedBy? earlier earlier.length name = none := by
    apply List.find?_eq_none.mpr
    intro number hnumber
    have hlt : ¬earlier.length ≤ number := Nat.not_le.mpr (List.mem_range.mp hnumber)
    simp [canCheck, hlt]
  simp [checkedBy?_concat, hnone, canCheck]

theorem lt_of_checkedBy? (hcheck : checkedBy? steps issue name = some number) :
    number < steps.length :=
  List.mem_range.mp (List.mem_of_find?_eq_some hcheck)

/-- The jumps that some step checks are those that are due. -/
theorem isSome_checkedBy?_iff (hissue : issue < steps.length) :
    (checkedBy? steps issue name).isSome = true ↔ IsDue steps issue name := by
  rw [checkedBy?, List.find?_isSome]
  constructor
  · rintro ⟨number, -, hcheck⟩
    simp only [canCheck, Bool.and_eq_true, Bool.or_eq_true, decide_eq_true_eq,
      Option.any_eq_true] at hcheck
    obtain ⟨⟨hle, rfl | ⟨step, hstep, hresolve⟩⟩, hdeclared⟩ := hcheck
    · exact .inl hdeclared
    · cases step with
      | jumpTo _ | declareLabel _ _ _ => contradiction
      | resolveJumps =>
        obtain rfl | hlt := Nat.eq_or_lt_of_le hle
        · exact .inl hdeclared
        · exact .inr ⟨number, hlt, hstep, hdeclared⟩
  · rintro (hdeclared | ⟨number, hlt, hstep, hdeclared⟩)
    · exact ⟨issue, List.mem_range.mpr hissue, by simp [canCheck, hdeclared]⟩
    · have hbound : number < steps.length := (List.getElem?_eq_some_iff.mp hstep).1
      have hle : issue ≤ number := Nat.le_of_lt hlt
      exact ⟨number, List.mem_range.mpr hbound,
        by simp [canCheck, hle, hstep, isResolve, hdeclared]⟩

/-! ## Jumps -/

theorem getElem?_of_mem_issued (hmem : (jump, issue) ∈ issued steps) :
    steps[issue]? = some (.jumpTo jump) := by
  obtain ⟨⟨step, number⟩, hstep, hjump⟩ := List.mem_filterMap.mp hmem
  have hread : steps[number]? = some step := List.mem_zipIdx_iff_getElem?.mp hstep
  cases step with
  | declareLabel _ _ _ | resolveJumps => contradiction
  | jumpTo jump =>
    cases hjump
    exact hread

theorem lt_of_mem_issued (hmem : (jump, issue) ∈ issued steps) : issue < steps.length :=
  (List.getElem?_eq_some_iff.mp (getElem?_of_mem_issued hmem)).1

theorem mem_of_mem_jumpsFor {check : Option Nat} (hmem : jump ∈ jumpsFor steps check) :
    .jumpTo jump ∈ steps := by
  obtain ⟨entry, hentry, rfl⟩ := List.mem_map.mp hmem
  exact List.mem_of_getElem? (getElem?_of_mem_issued (List.mem_of_mem_filter hentry))

theorem issued_concat : issued (earlier ++ [step]) =
    issued earlier ++ (step.jump?.map fun jump => (jump, earlier.length)).toList := by
  rw [issued, List.zipIdx_append, List.filterMap_append, List.zipIdx_singleton, Nat.zero_add]
  cases step <;> rfl

/-- One more step can check the earlier jumps or its own. -/
theorem jumpsFor_concat {check : Option Nat} : jumpsFor (earlier ++ [step]) check =
    ((issued earlier).filter fun entry => (checkedBy? earlier entry.2 entry.1.label).or
        (if step.isResolve && declares earlier entry.1.label then some earlier.length else none) =
          check).map Prod.fst ++
      (step.jump?.filter fun jump =>
        (if declares earlier jump.label then some earlier.length else none) = check).toList := by
  rw [jumpsFor, issued_concat, List.filter_append, List.map_append]
  congr 1
  · congr 1
    apply List.filter_congr
    intro entry hmem
    rw [checkedBy?_concat_of_lt (lt_of_mem_issued hmem)]
  · cases step.jump? with
    | none => rfl
    | some jump =>
      rw [Option.map_some, Option.toList_some, List.filter_singleton, checkedBy?_concat_self,
        Option.filter_some, Bool.cond_eq_ite, apply_ite (List.map Prod.fst),
        apply_ite Option.toList]
      rfl

/-- One more step does not change what the earlier ones check. -/
theorem jumpsFor_concat_of_lt (hnumber : number < earlier.length) :
    jumpsFor (earlier ++ [step]) (some number) = jumpsFor earlier (some number) := by
  have hne : earlier.length ≠ number := Nat.ne_of_gt hnumber
  rw [jumpsFor_concat, jumpsFor]
  simp [hne, Option.or_eq_some_iff]

/-- One more step checks waiting jumps if it resolves, and its own jump if the label is declared. -/
theorem jumpsFor_concat_self : jumpsFor (earlier ++ [step]) (some earlier.length) =
    (jumpsFor earlier none).filter (fun jump => step.isResolve && declares earlier jump.label) ++
      (step.jump?.filter fun jump => declares earlier jump.label).toList := by
  rw [jumpsFor_concat, jumpsFor, List.filter_map, List.filter_filter]
  congr 3
  · funext entry
    cases hcheck : checkedBy? earlier entry.2 entry.1.label with
    | none => simp [-Bool.and_eq_true, Option.none_or]
    | some number =>
      have hne : number ≠ earlier.length := Nat.ne_of_lt (lt_of_checkedBy? hcheck)
      simp [hne]
  · simp

/-- The jumps that one more step does not check go on waiting. -/
theorem jumpsFor_concat_none : jumpsFor (earlier ++ [step]) none =
    (jumpsFor earlier none).filter (fun jump => !(step.isResolve && declares earlier jump.label)) ++
      (step.jump?.filter fun jump => !declares earlier jump.label).toList := by
  rw [jumpsFor_concat, jumpsFor, List.filter_map, List.filter_filter]
  congr 3
  · funext entry
    cases hcheck : checkedBy? earlier entry.2 entry.1.label <;> simp
  · simp

/-- Each jump is checked by one of the steps or by none. -/
theorem perm_jumpsFor : (((List.range steps.length).flatMap fun number =>
    jumpsFor steps (some number)) ++ jumpsFor steps none).Perm (steps.filterMap jump?) := by
  induction steps using List.reverseRecOn with
  | nil => exact .nil
  | append_singleton earlier step ih =>
    have hearlier : ((List.range earlier.length).flatMap fun number =>
        jumpsFor (earlier ++ [step]) (some number)) =
          (List.range earlier.length).flatMap fun number => jumpsFor earlier (some number) :=
      List.flatMap_congr fun number hnumber => jumpsFor_concat_of_lt (List.mem_range.mp hnumber)
    have hwaiting := List.filter_append_perm
      (fun jump => step.isResolve && declares earlier jump.label) (jumpsFor earlier none)
    have hown := List.filter_append_perm (fun jump => declares earlier jump.label)
      step.jump?.toList
    rw [List.length_append, List.length_singleton, List.range_succ, List.flatMap_append, hearlier,
      List.flatMap_singleton, jumpsFor_concat_self, jumpsFor_concat_none, List.filterMap_append,
      Option.toList_filter, Option.toList_filter]
    have hnew : [step].filterMap jump? = step.jump?.toList := by cases step <;> rfl
    rw [hnew, List.perm_iff_count]
    intro jump
    have hearlierCount := ih.count_eq jump
    have hwaitingCount := hwaiting.count_eq jump
    have hownCount := hown.count_eq jump
    simp only [List.count_append] at hearlierCount hwaitingCount hownCount ⊢
    omega

end JumpStep

end Declarations
