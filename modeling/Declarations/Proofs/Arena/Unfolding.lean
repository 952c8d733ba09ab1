import Declarations.Proofs.Arena.Closed
import Mathlib.Data.Set.Function
import Mathlib.Logic.Relation

/-!
# The tree of a tuple

A tuple may have declarations as elements, which may be tuples again, and the same declaration may
be an element at several places.  Seen from one declaration this is a tree: its nodes are the ways
that lead from element to element, each written as the list of the places taken.  In a closed arena
the tree is finite unless a tuple can be reached from itself: no way is as long as the arena.
-/

namespace Declarations

open Relation

def TupleElement.declaration? : TupleElement → Option DeclId
  | .declaration id => some id
  | .type _ | .expression _ => none

def memberAt? (elements : List TupleElement) (place : Nat) : Option DeclId :=
  elements[place]?.bind TupleElement.declaration?

def Declaration.member? (declaration : Declaration) (place : Nat) : Option DeclId :=
  declaration.asTuple?.bind fun state => memberAt? state.elements place

theorem TupleElement.declaration?_eq_some_iff {element : TupleElement} {member : DeclId} :
    element.declaration? = some member ↔ element = .declaration member := by
  cases element <;> simp [declaration?]

/-- A declaration is among some elements exactly if it is there at a place. -/
theorem mem_iff_exists_memberAt? {elements : List TupleElement} {member : DeclId} :
    .declaration member ∈ elements ↔ ∃ place, memberAt? elements place = some member := by
  simp [List.mem_iff_getElem?, memberAt?, Option.bind_eq_some_iff,
    TupleElement.declaration?_eq_some_iff]

theorem Declaration.mem_handles_of_member? {declaration : Declaration} {place : Nat}
    {member : DeclId} (hmember : declaration.member? place = some member) :
    member ∈ declaration.handles := by
  obtain ⟨state, hstate, hat⟩ := Option.bind_eq_some_iff.mp hmember
  have helement : .declaration member ∈ state.elements := mem_iff_exists_memberAt?.mpr ⟨place, hat⟩
  have hamong : member ∈ state.elements.flatMap TupleElement.handles :=
    List.mem_flatMap.mpr ⟨_, helement, List.mem_singleton_self member⟩
  simp [handles, entity_of_asTuple? hstate, Entity.handles, hamong]

namespace Arena

def member? (arena : Arena) (tuple : DeclId) (place : Nat) : Option DeclId :=
  match arena.get tuple with
  | .ok declaration => declaration.member? place
  | .error _ => none

/-- The declaration to which a way leads. -/
def follow? (arena : Arena) : DeclId → List Nat → Option DeclId
  | id, [] => some id
  | id, place :: way => (arena.member? id place).bind fun member => arena.follow? member way

/-- The ways through the tree of a declaration: one for each of its nodes. -/
def ways (arena : Arena) (id : DeclId) : Set (List Nat) :=
  {way | ∃ node, arena.follow? id way = some node}

def Contains (arena : Arena) (tuple member : DeclId) : Prop :=
  ∃ place, arena.member? tuple place = some member

/-- No tuple that can be reached from the declaration can be reached from itself. -/
def Acyclic (arena : Arena) (id : DeclId) : Prop :=
  ∀ inner, ReflTransGen arena.Contains id inner → ¬TransGen arena.Contains inner inner

variable {arena : Arena} {id inner : DeclId} {place : Nat} {way : List Nat}

theorem member?_of_get {declaration : Declaration} (hget : arena.get id = .ok declaration) :
    arena.member? id place = declaration.member? place := by
  rw [member?, hget]

/-- A tuple contains the declarations among its elements. -/
theorem contains_iff_mem {declaration : Declaration} {state : Tuple} {member : DeclId}
    (hget : arena.get id = .ok declaration) (htuple : declaration.asTuple? = some state) :
    arena.Contains id member ↔ .declaration member ∈ state.elements := by
  simp [Contains, member?_of_get hget, Declaration.member?, htuple, mem_iff_exists_memberAt?]

/-- A way goes on from an element exactly if it begins at the place of the element. -/
theorem cons_mem_ways_iff : place :: way ∈ arena.ways id ↔
    ∃ member, arena.member? id place = some member ∧ way ∈ arena.ways member := by
  simp only [ways, Set.mem_ofPred_eq, follow?, Option.bind_eq_some_iff]
  constructor
  · rintro ⟨node, member, hmember, hnode⟩
    exact ⟨member, hmember, node, hnode⟩
  · rintro ⟨member, hmember, node, hnode⟩
    exact ⟨node, member, hmember, hnode⟩

/-- One more step is taken from where the way leads. -/
theorem follow?_concat : arena.follow? id (way ++ [place]) =
    (arena.follow? id way).bind fun node => arena.member? node place := by
  induction way generalizing id with
  | nil => simp [follow?]
  | cons first way ih =>
    simp only [List.cons_append, follow?, Option.bind_assoc]
    congr 1
    funext member
    exact ih

theorem Acyclic.of_contains (hacyclic : arena.Acyclic id) (hcontains : arena.Contains id inner) :
    arena.Acyclic inner :=
  fun innermost hreach => hacyclic innermost (.head hcontains hreach)

theorem Closed.lt_of_member? (hclosed : arena.Closed) {member : DeclId}
    (hmember : arena.member? id place = some member) : member.number < arena.size := by
  rw [member?] at hmember
  split at hmember
  · next declaration hget =>
    exact hclosed.lt_of_mem_handles hget (Declaration.mem_handles_of_member? hmember)
  · contradiction

/-- No tuple contains itself where every declaration names earlier ones alone. -/
theorem acyclic_of_handles_lt
    (hearlier : ∀ number (hnumber : number < arena.declarations.size),
      ∀ handle ∈ arena.declarations[number].handles, handle.number < number)
    (id : DeclId) : arena.Acyclic id := by
  have hless : ∀ tuple member, arena.Contains tuple member → member.number < tuple.number := by
    rintro tuple member ⟨place, hmember⟩
    rw [member?] at hmember
    split at hmember
    · next declaration hget =>
      obtain ⟨hbound, hsame⟩ := Array.getElem?_eq_some_iff.mp (get_eq_ok_iff.mp hget)
      exact hearlier tuple.number hbound member
        (hsame ▸ Declaration.mem_handles_of_member? hmember)
    · contradiction
  intro inner _ hcycle
  have hbelow : ∀ last, TransGen arena.Contains inner last → last.number < inner.number := by
    intro last hreach
    induction hreach with
    | single hcontains => exact hless _ _ hcontains
    | tail _ hcontains ih => exact (hless _ _ hcontains).trans ih
  exact Nat.lt_irrefl _ (hbelow inner hcycle)

/-- A way through a closed arena stays in it. -/
theorem Closed.lt_of_follow? (hclosed : arena.Closed) (hid : id.number < arena.size)
    {node : DeclId} (hnode : arena.follow? id way = some node) : node.number < arena.size := by
  induction way generalizing id with
  | nil =>
    obtain rfl : id = node := Option.some.inj hnode
    exact hid
  | cons place way ih =>
    obtain ⟨member, hmember, hrest⟩ := Option.bind_eq_some_iff.mp hnode
    exact ih (hclosed.lt_of_member? hmember) hrest

/-- A way that goes on behind different tuples, to none of which it can come back, is shorter than
what they leave of the arena. -/
theorem Closed.length_lt_of_trail (hclosed : arena.Closed) (trail : List DeclId)
    (hdifferent : trail.Nodup) (hbound : ∀ earlier ∈ trail, earlier.number < arena.size)
    (hreach : ∀ earlier ∈ trail, TransGen arena.Contains earlier id)
    (hid : id.number < arena.size) (hacyclic : arena.Acyclic id) (hway : way ∈ arena.ways id) :
    trail.length + way.length < arena.size := by
  induction way generalizing id trail with
  | nil =>
    have hnew : id ∉ trail := fun hold => hacyclic id .refl (hreach id hold)
    exact DeclId.length_le_of_nodup (List.nodup_cons.mpr ⟨hnew, hdifferent⟩)
      (List.forall_mem_cons.mpr ⟨hid, hbound⟩)
  | cons place way ih =>
    obtain ⟨member, hmember, hrest⟩ := cons_mem_ways_iff.mp hway
    have hcontains : arena.Contains id member := ⟨place, hmember⟩
    have hnew : id ∉ trail := fun hold => hacyclic id .refl (hreach id hold)
    have hlonger : ∀ earlier ∈ id :: trail, TransGen arena.Contains earlier member :=
      List.forall_mem_cons.mpr ⟨.single hcontains,
        fun earlier hearlier => (hreach earlier hearlier).tail hcontains⟩
    have hlength := ih (id :: trail) (List.nodup_cons.mpr ⟨hnew, hdifferent⟩)
      (List.forall_mem_cons.mpr ⟨hid, hbound⟩) hlonger (hclosed.lt_of_member? hmember)
      (hacyclic.of_contains hcontains) hrest
    rw [List.length_cons] at hlength ⊢
    omega

/-- In a closed arena every way through a tree without cycles is shorter than the arena. -/
theorem Closed.length_lt_of_acyclic (hclosed : arena.Closed) (hid : id.number < arena.size)
    (hacyclic : arena.Acyclic id) (hway : way ∈ arena.ways id) : way.length < arena.size := by
  have hlength := hclosed.length_lt_of_trail [] .nil nofun nofun hid hacyclic hway
  rwa [List.length_nil, Nat.zero_add] at hlength

end Arena

end Declarations
