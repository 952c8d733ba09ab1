import Declarations.Arena.Copy
import Declarations.Proofs.Arena.Change
import Declarations.Proofs.Arena.Unfolding

/-!
# Copies

A copy is made of new declarations, one for each node of the tree of the declaration that is copied.
Each of them has what is written in the declaration of its node, and nothing that analysis has found
out about it; the declarations among the elements of a tuple are replaced by their own copies.  What
was in the arena before stays as it was.
-/

namespace Declarations

open Relation

/-! ## One declaration -/

def TupleElement.replaced (element : TupleElement) (member : DeclId) : TupleElement :=
  match element with
  | .declaration _ => .declaration member
  | .type named => .type named
  | .expression value => .expression value

theorem memberAt?_mapIdx_replaced (elements : List TupleElement) (members : Nat → DeclId)
    (place : Nat) :
    memberAt? (elements.mapIdx fun place element => element.replaced (members place)) place =
      (memberAt? elements place).map fun _ => members place := by
  rw [memberAt?, List.getElem?_mapIdx, memberAt?]
  cases elements[place]? with
  | none => rfl
  | some element => cases element <;> rfl

/-- What is declared by a copy.  Everything that is not named is as in a new declaration. -/
inductive Entity.CopiedAs (members : Nat → DeclId) : Entity → Entity → Prop
  | tuple (state : Tuple) : CopiedAs members (.tuple state)
      (.tuple
        { kind := state.kind
          elements := state.elements.mapIdx fun place element => element.replaced (members place) })
  | aliasing (state : Alias) : CopiedAs members (.aliasing state)
      (.aliasing
        { target := state.target
          type := state.type
          pendingImport := state.pendingImport })
  | anchor (state : Anchor) : CopiedAs members (.anchor state)
      (.anchor
        { target := state.target
          forwardsSet := state.forwardsSet })
  | var (state : Variable) (sequence : Nat) : CopiedAs members (.var state)
      (.var
        { role := state.role
          initializer := state.initializer
          alignment := state.alignment
          sequence })
  | func (state : Func) : CopiedAs members (.func state)
      (.func
        { role := state.role
          parameters := state.parameters
          variadic := state.variadic
          body := state.body
          inContract := state.inContract
          outContract := state.outContract
          returnLabel := state.returnLabel
          flags := state.flags })

/-- A declaration and its copy, in which the declarations among the elements of a tuple are the
given ones. -/
structure Declaration.CopiedAs (members : Nat → DeclId) (original copied : Declaration) : Prop where
  name_eq : copied.name = original.name
  span_eq : copied.span = original.span
  type_eq : copied.type = original.writtenType.or original.type
  writtenType_eq : copied.writtenType = original.writtenType
  /-- The properties that inference has added are left out. -/
  mem_storage_iff : ∀ flag, flag ∈ copied.storage ↔ flag ∈ original.storage ∧
    ∀ state, original.asFunc? = some state → flag ∉ state.inferred.storage
  visibility_eq : copied.visibility = original.visibility
  linkage_eq : copied.linkage = original.linkage
  inUse_eq : copied.inUse = 0
  mangleOverride_eq : copied.mangleOverride = original.mangleOverride
  owner_eq : copied.owner = original.owner
  entity : original.entity.CopiedAs members copied.entity

namespace Declaration

variable {members : Nat → DeclId} {original : Declaration}

theorem mem_storage_asWritten_iff {flag : StorageFlag} :
    flag ∈ original.asWritten.storage ↔ flag ∈ original.storage ∧
      ∀ state, original.asFunc? = some state → flag ∉ state.inferred.storage := by
  cases hfunc : original.asFunc? <;> simp [asWritten, inferredStorage, hfunc]

theorem copiedAs_of_entity {entity : Entity} (hentity : original.entity.CopiedAs members entity) :
    original.CopiedAs members { original.asWritten with entity } where
  name_eq := rfl
  span_eq := rfl
  type_eq := by cases hwritten : original.writtenType <;> simp [asWritten, hwritten]
  writtenType_eq := rfl
  mem_storage_iff _ := mem_storage_asWritten_iff
  visibility_eq := rfl
  linkage_eq := rfl
  inUse_eq := rfl
  mangleOverride_eq := rfl
  owner_eq := rfl
  entity := hentity

/-- The declaration as it is written, with the number of a new variable if it is one. -/
def renewed (original : Declaration) (sequence : Nat) : Declaration :=
  original.asWritten.mapVariable fun state => { state with sequence }

/-- A declaration that is written down again is a copy once it has the elements of a new tuple. -/
theorem copiedAs_withElements {elements : List TupleElement} (sequence : Nat)
    (helements : ∀ state, original.asTuple? = some state → elements =
      state.elements.mapIdx fun place element => element.replaced (members place)) :
    original.CopiedAs members ((original.renewed sequence).withElements elements) := by
  have hsame : ∃ entity, original.entity.CopiedAs members entity ∧
      (original.renewed sequence).withElements elements = { original.asWritten with entity } := by
    cases hentity : original.entity with
    | tuple state =>
      obtain rfl := helements state (by simp [asTuple?, hentity])
      exact ⟨_, .tuple state, by
        simp [renewed, asWritten, mapVariable, withElements, hentity, Entity.asWritten]⟩
    | aliasing state =>
      exact ⟨_, .aliasing state, by
        simp [renewed, asWritten, mapVariable, withElements, hentity, Entity.asWritten]⟩
    | anchor state =>
      exact ⟨_, .anchor state, by
        simp [renewed, asWritten, mapVariable, withElements, hentity, Entity.asWritten]⟩
    | var state =>
      exact ⟨_, .var state sequence, by
        simp [renewed, asWritten, mapVariable, withElements, hentity, Entity.asWritten,
          Variable.asWritten]⟩
    | func state =>
      exact ⟨_, .func state, by
        simp [renewed, asWritten, mapVariable, withElements, hentity, Entity.asWritten,
          Func.asWritten]⟩
  obtain ⟨entity, hentity, hsame⟩ := hsame
  rw [hsame]
  exact copiedAs_of_entity hentity

@[simp]
theorem asVariable?_withElements {elements : List TupleElement} :
    (original.withElements elements).asVariable? = original.asVariable? := by
  cases hentity : original.entity <;> simp [withElements, asVariable?, hentity]

/-- A declaration that is no tuple has no elements to replace. -/
theorem copiedAs_of_asTuple?_eq_none (htuple : original.asTuple? = none) (sequence : Nat) :
    original.CopiedAs members (original.renewed sequence) := by
  have hsame : (original.renewed sequence).withElements [] = original.renewed sequence := by
    cases hentity : original.entity <;>
      simp_all [renewed, asTuple?, asWritten, mapVariable, withElements, Entity.asWritten]
  rw [← hsame]
  exact copiedAs_withElements sequence (by simp [htuple])

/-- A copy has a declaration among its elements wherever the original has one. -/
theorem CopiedAs.member?_eq {copied : Declaration} (hcopied : original.CopiedAs members copied)
    (place : Nat) : copied.member? place = (original.member? place).map fun _ => members place := by
  have hentity := hcopied.entity
  generalize horiginal : original.entity = declared at hentity
  generalize hcopy : copied.entity = declaredCopy at hentity
  cases hentity with
  | tuple state =>
    simp only [member?, asTuple?, horiginal, hcopy, Option.bind_some, memberAt?_mapIdx_replaced]
  | _ => simp [member?, asTuple?, horiginal, hcopy]

end Declaration

namespace Arena

/-! ## An arena that grows -/

/-- Declarations have been added to an arena, and what was there is as it was.  The new variables
have new numbers, in their order. -/
structure Extends (before after : Arena) : Prop where
  size_le : before.size ≤ after.size
  aggregates_eq : after.aggregates = before.aggregates
  get_eq : ∀ id, id.number < before.size → after.get id = before.get id
  nextSequence_le : before.nextSequence ≤ after.nextSequence
  sequence_new : ∀ id state, before.size ≤ id.number → after.asVariable? id = .ok (some state) →
    before.nextSequence ≤ state.sequence ∧ state.sequence < after.nextSequence
  sequence_lt : ∀ earlier later state other, before.size ≤ earlier.number →
    earlier.number < later.number → after.asVariable? earlier = .ok (some state) →
    after.asVariable? later = .ok (some other) → state.sequence < other.sequence

def added (before after : Arena) : Set DeclId :=
  {id | before.size ≤ id.number ∧ id.number < after.size}

namespace Extends

variable {before middle after last : Arena}

theorem refl (arena : Arena) : arena.Extends arena where
  size_le := le_rfl
  aggregates_eq := rfl
  get_eq _ _ := rfl
  nextSequence_le := le_rfl
  sequence_new id state hid hstate := by
    rw [asVariable?, get_of_size_le hid] at hstate
    contradiction
  sequence_lt earlier later state other hid hless hstate := by
    rw [asVariable?, get_of_size_le hid] at hstate
    contradiction

theorem asVariable?_eq (hextends : before.Extends after) {id : DeclId}
    (hid : id.number < before.size) : after.asVariable? id = before.asVariable? id := by
  rw [asVariable?, hextends.get_eq id hid, asVariable?]

theorem trans (hfirst : before.Extends middle) (hsecond : middle.Extends after) :
    before.Extends after where
  size_le := hfirst.size_le.trans hsecond.size_le
  aggregates_eq := hsecond.aggregates_eq.trans hfirst.aggregates_eq
  get_eq id hid := (hsecond.get_eq id (hid.trans_le hfirst.size_le)).trans (hfirst.get_eq id hid)
  nextSequence_le := hfirst.nextSequence_le.trans hsecond.nextSequence_le
  sequence_new id state hid hstate := by
    by_cases hmiddle : id.number < middle.size
    · rw [hsecond.asVariable?_eq hmiddle] at hstate
      obtain ⟨hle, hlt⟩ := hfirst.sequence_new id state hid hstate
      exact ⟨hle, hlt.trans_le hsecond.nextSequence_le⟩
    · obtain ⟨hle, hlt⟩ := hsecond.sequence_new id state (Nat.le_of_not_lt hmiddle) hstate
      exact ⟨hfirst.nextSequence_le.trans hle, hlt⟩
  sequence_lt earlier later state other hid hless hstate hother := by
    by_cases hearlier : earlier.number < middle.size
    · rw [hsecond.asVariable?_eq hearlier] at hstate
      by_cases hlater : later.number < middle.size
      · rw [hsecond.asVariable?_eq hlater] at hother
        exact hfirst.sequence_lt earlier later state other hid hless hstate hother
      · have hbelow := (hfirst.sequence_new earlier state hid hstate).2
        exact hbelow.trans_le
          (hsecond.sequence_new later other (Nat.le_of_not_lt hlater) hother).1
    · exact hsecond.sequence_lt earlier later state other (Nat.le_of_not_lt hearlier) hless hstate
        hother

/-- The addition of one declaration. -/
theorem add (arena : Arena) (declaration : Declaration) :
    arena.Extends (arena.add declaration).2 where
  size_le := by rw [size_add]; exact Nat.le_succ _
  aggregates_eq := rfl
  get_eq id hid := get_add_of_lt declaration hid
  nextSequence_le := by
    simp only [Arena.add]
    split <;> omega
  sequence_new id state hid hstate := by
    by_cases hbeyond : (arena.add declaration).2.size ≤ id.number
    · rw [asVariable?, get_of_size_le hbeyond] at hstate
      contradiction
    · have hnew : id = (arena.add declaration).1 := by
        obtain ⟨number⟩ := id
        rw [size_add] at hbeyond
        exact congrArg DeclId.mk
          (Nat.le_antisymm (Nat.le_of_lt_succ (Nat.lt_of_not_le hbeyond)) hid)
      rw [hnew, asVariable?, get_add_self] at hstate
      simp only [ok_bind, pure_eq_ok, Except.ok.injEq, Declaration.asVariable?_mapVariable,
        Option.map_eq_some_iff] at hstate
      obtain ⟨old, hold, rfl⟩ := hstate
      simp [Arena.add, hold]
  sequence_lt earlier later state other hid hless hstate hother := by
    have hbeyond : (arena.add declaration).2.size ≤ later.number := by
      rw [size_add]
      omega
    rw [asVariable?, get_of_size_le hbeyond] at hother
    contradiction

/-- A new declaration may be changed as long as the state of variables is left alone. -/
theorem modify (hextends : before.Extends after) {id : DeclId} (hid : before.size ≤ id.number)
    {change : Declaration → Declaration}
    (hchange : ∀ declaration, (change declaration).asVariable? = declaration.asVariable?)
    (hmodify : after.modify id change = .ok last) : before.Extends last := by
  have hvariable : ∀ other, last.asVariable? other = after.asVariable? other := by
    intro other
    rw [asVariable?, get_of_modify hmodify, asVariable?]
    split
    · cases after.get other <;> simp [hchange]
    · rfl
  constructor
  case size_le => exact size_of_modify hmodify ▸ hextends.size_le
  case aggregates_eq => exact (aggregates_of_modify hmodify).trans hextends.aggregates_eq
  case get_eq =>
    intro other hother
    have hdifferent : other ≠ id := by
      rintro rfl
      omega
    rw [get_of_modify hmodify, if_neg hdifferent, hextends.get_eq other hother]
  case nextSequence_le => exact nextSequence_of_modify hmodify ▸ hextends.nextSequence_le
  case sequence_new =>
    intro other state
    rw [hvariable, nextSequence_of_modify hmodify]
    exact hextends.sequence_new other state
  case sequence_lt =>
    intro earlier later state other
    rw [hvariable, hvariable]
    exact hextends.sequence_lt earlier later state other

end Extends

/-! ## Trees and their copies -/

/-- A declaration has been copied with its tree: there is one new declaration for each way through
the tree, a copy of the declaration to which the way leads. -/
structure CopiesTree (source before after : Arena) (id : DeclId) (copyOf : List Nat → DeclId) :
    Prop where
  root_eq : copyOf [] = ⟨before.size⟩
  bijOn : Set.BijOn copyOf (source.ways id) (added before after)
  get : ∀ way node declaration, source.follow? id way = some node →
    source.get node = .ok declaration → ∃ copied, after.get (copyOf way) = .ok copied ∧
      declaration.CopiedAs (fun place => copyOf (way ++ [place])) copied

/-- The ways through the trees of the declarations among some elements, each with the place of its
element. -/
def elementWays (source : Arena) (elements : List TupleElement) : Set (Nat × List Nat) :=
  {entry | ∃ member, memberAt? elements entry.1 = some member ∧ entry.2 ∈ source.ways member}

structure CopiesElements (source before after : Arena) (elements copies : List TupleElement)
    (copyOf : Nat → List Nat → DeclId) : Prop where
  copies_eq : copies = elements.mapIdx fun place element => element.replaced (copyOf place [])
  bijOn : Set.BijOn (fun entry : Nat × List Nat => copyOf entry.1 entry.2)
    (source.elementWays elements) (added before after)
  get : ∀ place member way node declaration, memberAt? elements place = some member →
    source.follow? member way = some node → source.get node = .ok declaration →
    ∃ copied, after.get (copyOf place way) = .ok copied ∧
      declaration.CopiedAs (fun next => copyOf place (way ++ [next])) copied

variable {source before middle after last : Arena} {id : DeclId}

theorem added_self : added before before = ∅ := by
  ext new
  simp only [added, Set.mem_ofPred_eq, Set.mem_empty_iff_false, iff_false]
  omega

theorem added_union (hbefore : before.size ≤ middle.size) (hafter : middle.size ≤ after.size) :
    added before middle ∪ added middle after = added before after := by
  ext new
  simp only [added, Set.mem_union, Set.mem_ofPred_eq]
  omega

/-- What is copied first has other copies than what is copied later. -/
theorem bijOn_union_added {α : Type} {copyOf : α → DeclId} {first later : Set α}
    (hfirst : Set.BijOn copyOf first (added before middle))
    (hlater : Set.BijOn copyOf later (added middle after))
    (hbefore : before.size ≤ middle.size) (hafter : middle.size ≤ after.size) :
    Set.BijOn copyOf (first ∪ later) (added before after) := by
  have hapart : ∀ left ∈ first, ∀ right ∈ later, copyOf left ≠ copyOf right := by
    intro left hleft right hright hsame
    have hhigh := (hfirst.mapsTo hleft).2
    have hlow := (hlater.mapsTo hright).1
    rw [hsame] at hhigh
    exact Nat.not_lt.mpr hlow hhigh
  rw [← added_union hbefore hafter]
  apply hfirst.union hlater
  rintro left (hleft | hleft) right (hright | hright) hsame
  · exact hfirst.injOn hleft hright hsame
  · exact absurd hsame (hapart left hleft right hright)
  · exact absurd hsame.symm (hapart right hright left hleft)
  · exact hlater.injOn hleft hright hsame

theorem elementWays_nil : source.elementWays [] = ∅ := by
  ext entry
  simp [elementWays, memberAt?]

theorem CopiesElements.nil (copyOf : Nat → List Nat → DeclId) :
    CopiesElements source before before [] [] copyOf where
  copies_eq := rfl
  bijOn := by
    rw [elementWays_nil, added_self]
    exact Set.bijOn_empty _
  get place member way node declaration hmember := by
    simp [memberAt?] at hmember

/-- The copies below a first element, followed by those below the others. -/
def prepend (first : List Nat → DeclId) (others : Nat → List Nat → DeclId) :
    Nat → List Nat → DeclId
  | 0 => first
  | place + 1 => others place

def waysBelow (source : Arena) (element : TupleElement) : Set (List Nat) :=
  {way | ∃ member, element.declaration? = some member ∧ way ∈ source.ways member}

theorem waysBelow_declaration {member : DeclId} :
    source.waysBelow (.declaration member) = source.ways member := by
  ext way
  simp [waysBelow, TupleElement.declaration?]

theorem waysBelow_eq_empty {element : TupleElement} (helement : element.declaration? = none) :
    source.waysBelow element = ∅ := by
  ext way
  simp [waysBelow, helement]

/-- The ways below some elements are those below the first one and those below the others. -/
theorem elementWays_cons {element : TupleElement} {rest : List TupleElement} :
    source.elementWays (element :: rest) =
      Prod.mk 0 '' source.waysBelow element ∪
        (fun entry => (entry.1 + 1, entry.2)) '' source.elementWays rest := by
  ext ⟨place, way⟩
  cases place with
  | zero => simp [elementWays, memberAt?, waysBelow]
  | succ place => simp [elementWays, memberAt?]

theorem injective_nextPlace :
    Function.Injective fun entry : Nat × List Nat => (entry.1 + 1, entry.2) := by
  rintro ⟨place, way⟩ ⟨other, path⟩ hsame
  obtain ⟨hplace, hway⟩ := Prod.mk.inj hsame
  exact Prod.ext (Nat.succ.inj hplace) hway

theorem injective_cons : Function.Injective fun entry : Nat × List Nat => entry.1 :: entry.2 := by
  rintro ⟨place, way⟩ ⟨other, path⟩ hsame
  obtain ⟨rfl, rfl⟩ := List.cons.inj hsame
  rfl

/-- The first element and the others have their own copies. -/
theorem bijOn_prepend {element : TupleElement} {rest : List TupleElement}
    {first : List Nat → DeclId} {others : Nat → List Nat → DeclId}
    (hfirst : Set.BijOn first (source.waysBelow element) (added before middle))
    (hothers : Set.BijOn (fun entry : Nat × List Nat => others entry.1 entry.2)
      (source.elementWays rest) (added middle after))
    (hbefore : before.size ≤ middle.size) (hafter : middle.size ≤ after.size) :
    Set.BijOn (fun entry : Nat × List Nat => prepend first others entry.1 entry.2)
      (source.elementWays (element :: rest)) (added before after) := by
  rw [elementWays_cons]
  refine bijOn_union_added ?_ ?_ hbefore hafter
  · rw [← Set.bijOn_comp_iff (Prod.mk_right_injective 0).injOn]
    exact hfirst
  · rw [← Set.bijOn_comp_iff injective_nextPlace.injOn]
    exact hothers

/-- One more element has been copied. -/
theorem CopiesElements.cons {element : TupleElement} {rest copies : List TupleElement}
    {first : List Nat → DeclId} {others : Nat → List Nat → DeclId}
    (hbefore : before.size ≤ middle.size)
    (hfirst : Set.BijOn first (source.waysBelow element) (added before middle))
    (hget : ∀ member way node declaration, element.declaration? = some member →
      source.follow? member way = some node → source.get node = .ok declaration →
      ∃ copied, middle.get (first way) = .ok copied ∧
        declaration.CopiedAs (fun next => first (way ++ [next])) copied)
    (hextends : middle.Extends after)
    (hothers : CopiesElements source middle after rest copies others) :
    CopiesElements source before after (element :: rest) (element.replaced (first []) :: copies)
      (prepend first others) where
  copies_eq := by
    rw [List.mapIdx_cons, hothers.copies_eq]
    rfl
  bijOn := bijOn_prepend hfirst hothers.bijOn hbefore hextends.size_le
  get place member way node declaration hmember hnode hdeclaration := by
    cases place with
    | zero =>
      obtain ⟨copied, hcopied, hsame⟩ := hget member way node declaration hmember hnode hdeclaration
      refine ⟨copied, ?_, hsame⟩
      have hbound : (first way).number < middle.size :=
        (hfirst.mapsTo ⟨member, hmember, node, hnode⟩).2
      rw [← hcopied]
      exact hextends.get_eq _ hbound
    | succ place => exact hothers.get place member way node declaration hmember hnode hdeclaration

/-- A declaration and the elements behind it have been copied. -/
theorem CopiesElements.declaration {member : DeclId} {rest copies : List TupleElement}
    {first : List Nat → DeclId} {others : Nat → List Nat → DeclId}
    (hmiddle : before.Extends middle) (htree : CopiesTree source before middle member first)
    (hafter : middle.Extends after)
    (hothers : CopiesElements source middle after rest copies others) :
    CopiesElements source before after (.declaration member :: rest)
      (.declaration (first []) :: copies) (prepend first others) := by
  refine .cons hmiddle.size_le (waysBelow_declaration ▸ htree.bijOn) ?_ hafter hothers
  intro other way node declaration hother hnode hdeclaration
  obtain rfl : member = other := Option.some.inj hother
  exact htree.get way node declaration hnode hdeclaration

/-- An element that is no declaration stays, and those behind it have been copied. -/
theorem CopiesElements.other {element : TupleElement} {rest copies : List TupleElement}
    {others : Nat → List Nat → DeclId} (helement : element.declaration? = none)
    (hafter : before.Extends after)
    (hothers : CopiesElements source before after rest copies others) :
    CopiesElements source before after (element :: rest) (element :: copies)
      (prepend (fun _ => ⟨0⟩) others) := by
  have hstays : element.replaced ⟨0⟩ = element := by
    cases element with
    | declaration member => contradiction
    | type named => rfl
    | expression value => rfl
  have hempty : Set.BijOn (fun _ => (⟨0⟩ : DeclId)) (source.waysBelow element)
      (added before before) := by
    rw [waysBelow_eq_empty helement, added_self]
    exact Set.bijOn_empty _
  have hcons := CopiesElements.cons le_rfl hempty (by simp [helement]) hafter hothers
  rwa [hstays] at hcons

def below (root : DeclId) (others : Nat → List Nat → DeclId) : List Nat → DeclId
  | [] => root
  | place :: way => others place way

/-- Besides the way that goes nowhere there are those below the elements of a tuple. -/
theorem ways_eq_union {declaration : Declaration} (hget : source.get id = .ok declaration)
    {elements : List TupleElement}
    (helements : ∀ place, declaration.member? place = memberAt? elements place) :
    source.ways id =
      {[]} ∪ (fun entry : Nat × List Nat => entry.1 :: entry.2) '' source.elementWays elements := by
  ext way
  cases way with
  | nil => simp [ways, follow?]
  | cons place way =>
    rw [cons_mem_ways_iff]
    simp [member?_of_get hget, helements, elementWays]

/-- The root of a tree has the first new handle, and what is below it has those that follow. -/
theorem bijOn_below {declaration : Declaration} (hget : source.get id = .ok declaration)
    {elements : List TupleElement}
    (helements : ∀ place, declaration.member? place = memberAt? elements place)
    {others : Nat → List Nat → DeclId}
    (hothers : Set.BijOn (fun entry : Nat × List Nat => others entry.1 entry.2)
      (source.elementWays elements) (added middle after))
    (hmiddle : middle.size = before.size + 1) (hafter : middle.size ≤ after.size) :
    Set.BijOn (below ⟨before.size⟩ others) (source.ways id) (added before after) := by
  have hroot : added before middle = {⟨before.size⟩} := by
    ext ⟨number⟩
    simp only [added, Set.mem_ofPred_eq, Set.mem_singleton_iff, DeclId.mk.injEq]
    omega
  have hbefore : before.size ≤ middle.size := hmiddle ▸ Nat.le_succ _
  rw [ways_eq_union hget helements]
  refine bijOn_union_added ?_ ?_ hbefore hafter
  · rw [hroot]
    exact Set.bijOn_singleton.mpr rfl
  · rw [← Set.bijOn_comp_iff injective_cons.injOn]
    exact hothers

/-- A tree has been copied when its root and the elements of the root have been. -/
theorem CopiesTree.of_elements {declaration copied : Declaration}
    (hget : source.get id = .ok declaration) {elements copies : List TupleElement}
    (helements : ∀ place, declaration.member? place = memberAt? elements place)
    {others : Nat → List Nat → DeclId}
    (hothers : CopiesElements source middle last elements copies others)
    (hmiddle : middle.size = before.size + 1) (hlast : middle.size ≤ last.size)
    (hsize : after.size = last.size) (hroot : after.get ⟨before.size⟩ = .ok copied)
    (hcopied : declaration.CopiedAs (fun place => others place []) copied)
    (hsame : ∀ other, other ≠ ⟨before.size⟩ → after.get other = last.get other) :
    CopiesTree source before after id (below ⟨before.size⟩ others) where
  root_eq := rfl
  bijOn := by
    have hbijOn := bijOn_below hget helements hothers.bijOn hmiddle hlast
    rwa [added, ← hsize, ← added] at hbijOn
  get way node found hnode hfound := by
    cases way with
    | nil =>
      obtain rfl : id = node := Option.some.inj hnode
      obtain rfl := Except.ok.inj (hget.symm.trans hfound)
      exact ⟨copied, hroot, hcopied⟩
    | cons place way =>
      obtain ⟨member, hmember, hrest⟩ := Option.bind_eq_some_iff.mp hnode
      rw [member?_of_get hget, helements] at hmember
      obtain ⟨copy, hcopy, hcopies⟩ := hothers.get place member way node found hmember hrest hfound
      refine ⟨copy, ?_, hcopies⟩
      rw [← hcopy]
      apply hsame
      intro hequal
      have hentry : (place, way) ∈ source.elementWays elements := ⟨member, hmember, node, hrest⟩
      have hlow : middle.size ≤ (others place way).number := (hothers.bijOn.mapsTo hentry).1
      have hnumber : (others place way).number = before.size := congrArg DeclId.number hequal
      omega

/-- A declaration that is no tuple is copied by itself. -/
theorem CopiesTree.leaf {declaration : Declaration} (hget : source.get id = .ok declaration)
    (htuple : declaration.asTuple? = none) :
    CopiesTree source before (before.add declaration.asWritten).2 id
      (below ⟨before.size⟩ fun _ _ => ⟨0⟩) := by
  have hmembers : ∀ place, declaration.member? place = memberAt? [] place := by
    simp [Declaration.member?, htuple, memberAt?]
  refine .of_elements hget hmembers (.nil _) (size_add _ _) le_rfl rfl (get_add_self _ _) ?_
    fun _ _ => rfl
  exact Declaration.copiedAs_of_asTuple?_eq_none htuple before.nextSequence

/-- A tuple is copied when its elements are, in the place of the original ones. -/
theorem CopiesTree.tuple {declaration : Declaration} (hget : source.get id = .ok declaration)
    {state : Tuple} (htuple : declaration.asTuple? = some state) {copies : List TupleElement}
    {others : Nat → List Nat → DeclId}
    (hextends : (before.add declaration.asWritten).2.Extends last)
    (hothers : CopiesElements source (before.add declaration.asWritten).2 last state.elements
      copies others)
    (hmodify : last.modify ⟨before.size⟩ (·.withElements copies) = .ok after) :
    CopiesTree source before after id (below ⟨before.size⟩ others) := by
  have hmembers : ∀ place, declaration.member? place = memberAt? state.elements place := by
    simp [Declaration.member?, htuple]
  have hnew : before.size < (before.add declaration.asWritten).2.size := by
    rw [size_add]
    exact Nat.lt_succ_self _
  have hadded : last.get ⟨before.size⟩ = .ok (declaration.renewed before.nextSequence) :=
    (hextends.get_eq ⟨before.size⟩ hnew).trans (get_add_self _ _)
  have hroot : after.get ⟨before.size⟩ =
      .ok ((declaration.renewed before.nextSequence).withElements copies) := by
    rw [get_of_modify hmodify, if_pos rfl, hadded, ok_map]
  refine .of_elements hget hmembers hothers (size_add _ _) hextends.size_le
    (size_of_modify hmodify) hroot ?_ ?_
  · apply Declaration.copiedAs_withElements
    intro other hother
    obtain rfl : state = other := Option.some.inj (htuple.symm.trans hother)
    exact hothers.copies_eq
  · intro other hother
    rw [get_of_modify hmodify, if_neg hother]

end Arena

end Declarations
