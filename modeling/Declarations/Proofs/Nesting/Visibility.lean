import Declarations.Proofs.Arena.Links
import Declarations.Proofs.Nesting.Within

/-!
# Looking outwards

How visible a declaration is, and what it is nested in, is found by going outwards from function to
function.  The two walks take one step more than there are declarations.  A way outwards that comes
to an end is shorter than that, and one that does not end goes round among declarations that it has
passed, so more steps would not change what is found.
-/

namespace Declarations

open Relation

namespace Declaration

variable {declaration : Declaration} {outer : DeclId}

/-- The function that a declaration is just as visible as: the one around it, if the declaration
writes no visibility. -/
def inheritsFrom? (declaration : Declaration) : Option DeclId :=
  if declaration.visibility = .undefined then declaration.localTo? else none

theorem inheritsFrom?_eq_some_iff : declaration.inheritsFrom? = some outer ↔
    declaration.visibility = .undefined ∧ declaration.owner = .function outer := by
  unfold inheritsFrom? localTo?
  cases declaration.owner <;> simp

end Declaration

namespace Arena

def InheritsFrom (arena : Arena) (inner outer : DeclId) : Prop :=
  ∃ declaration, arena.get inner = .ok declaration ∧ declaration.visibility = .undefined ∧
    declaration.owner = .function outer

/-- The visibility is written at the declaration, or else at the aggregate that it is a member
of. -/
inductive Writes (arena : Arena) (id : DeclId) : Visibility → Prop where
  | own {declaration : Declaration} (get_eq : arena.get id = .ok declaration)
      (written : declaration.visibility ≠ .undefined) : Writes arena id declaration.visibility
  | aggregate {declaration : Declaration} {owner : AggregateId} {aggregate : Aggregate}
      (get_eq : arena.get id = .ok declaration) (unwritten : declaration.visibility = .undefined)
      (owner_eq : declaration.owner = .aggregate owner)
      (aggregate_eq : arena.aggregate owner = .ok aggregate)
      (written : aggregate.visibility ≠ .undefined) : Writes arena id aggregate.visibility

/-- The visibility is the first one that is written on the way outwards from the declaration. -/
def FirstWritten (arena : Arena) (id : DeclId) (level : Visibility) : Prop :=
  ∃ outer, ReflTransGen arena.InheritsFrom id outer ∧ arena.Writes outer level

variable {arena : Arena} {id outer last : DeclId} {level : Visibility} {passed : List DeclId}
  {declaration : Declaration} {steps : Nat}

theorem inheritsFrom_eq (arena : Arena) :
    arena.InheritsFrom = LinksTo (arena.linked Declaration.inheritsFrom?) := by
  funext inner outer
  simp [InheritsFrom, LinksTo, linked_eq_some_iff, Declaration.inheritsFrom?_eq_some_iff]

/-- The function around a declaration of a closed arena can be read. -/
theorem Closed.lt_of_inheritsFrom (hclosed : arena.Closed)
    (hinherits : arena.InheritsFrom id outer) : outer.number < arena.size := by
  obtain ⟨declaration, hget, -, howner⟩ := hinherits
  exact hclosed.lt_of_mem_handles hget (by simp [Declaration.handles, howner, Owner.handles])

theorem FirstWritten.outwards (hinherits : arena.InheritsFrom id outer)
    (hfirst : arena.FirstWritten outer level) : arena.FirstWritten id level := by
  obtain ⟨last, hreach, hwrites⟩ := hfirst
  exact ⟨last, .head hinherits hreach, hwrites⟩

namespace Writes

theorem ne_undefined (hwrites : arena.Writes id level) : level ≠ .undefined := by
  cases hwrites with
  | own _ written => exact written
  | aggregate _ _ _ _ written => exact written

/-- The way outwards ends where a visibility is written. -/
theorem linked_eq_none (hwrites : arena.Writes id level) :
    arena.linked Declaration.inheritsFrom? id = none := by
  cases hwrites with
  | own get_eq written => rw [linked_of_get _ get_eq, Declaration.inheritsFrom?, if_neg written]
  | aggregate get_eq _ owner_eq =>
    rw [linked_of_get _ get_eq, Declaration.inheritsFrom?, Declaration.localTo?, owner_eq, ite_self]

theorem inheritedVisibility (hwrites : arena.Writes id level) (hsteps : 0 < steps) :
    arena.inheritedVisibility steps id = .ok level := by
  obtain ⟨steps, rfl⟩ := Nat.exists_eq_succ_of_ne_zero (Nat.ne_zero_of_lt hsteps)
  cases hwrites with
  | own get_eq written => simp [Arena.inheritedVisibility, get_eq, written]
  | aggregate get_eq unwritten owner_eq aggregate_eq written =>
    simp [Arena.inheritedVisibility, get_eq, unwritten, owner_eq, aggregate_eq, written]

end Writes

theorem FirstWritten.ne_undefined (hfirst : arena.FirstWritten id level) : level ≠ .undefined := by
  obtain ⟨outer, -, hwrites⟩ := hfirst
  exact hwrites.ne_undefined

/-- A walk goes on at the end of any way on which nothing is written. -/
theorem inheritedVisibility_of_passes
    (hpasses : Passes (arena.linked Declaration.inheritsFrom?) id passed last) (steps : Nat) :
    arena.inheritedVisibility (passed.length + steps) id =
      arena.inheritedVisibility steps last := by
  induction hpasses with
  | here => rw [List.length_nil, Nat.zero_add]
  | link next_eq _ ih =>
    obtain ⟨declaration, hget, houter⟩ := linked_eq_some_iff.mp next_eq
    obtain ⟨hunwritten, howner⟩ := Declaration.inheritsFrom?_eq_some_iff.mp houter
    rw [List.length_cons, Nat.add_right_comm, inheritedVisibility, hget, ok_bind, hunwritten,
      howner]
    exact ih

/-- A walk with more steps than declarations finds the first visibility that is written. -/
theorem FirstWritten.inheritedVisibility (hfirst : arena.FirstWritten id level)
    (hsteps : arena.size < steps) : arena.inheritedVisibility steps id = .ok level := by
  obtain ⟨last, hreach, hwrites⟩ := hfirst
  rw [inheritsFrom_eq] at hreach
  obtain ⟨passed, hpasses⟩ := Passes.exists_of_reaches hreach
  have hlength : passed.length ≤ arena.size :=
    DeclId.length_le_of_nodup (hpasses.nodup_of_next_eq_none hwrites.linked_eq_none)
      fun _ => lt_of_mem_passes hpasses
  obtain ⟨further, rfl⟩ := Nat.exists_eq_add_of_le (Nat.le_trans hlength (Nat.le_of_lt hsteps))
  rw [inheritedVisibility_of_passes hpasses]
  exact hwrites.inheritedVisibility (by omega)

/-- The aggregate that a declaration of a closed arena is a member of can be read. -/
theorem Closed.exists_aggregate (hclosed : arena.Closed) (hget : arena.get id = .ok declaration)
    {owner : AggregateId} (howner : declaration.owner = .aggregate owner) :
    ∃ aggregate, arena.aggregate owner = .ok aggregate := by
  have hmem : owner ∈ declaration.aggregateHandles := by
    simp [Declaration.aggregateHandles, howner, Owner.aggregateHandles]
  have hbound := hclosed.aggregateHandles_lt declaration (mem_of_get hget) owner hmem
  exact ⟨arena.aggregates[owner.number], by simp [Arena.aggregate, hbound]⟩

/-- Where no visibility is written, a walk of any number of steps finds the declaration public. -/
theorem Closed.inheritedVisibility_of_unwritten (hclosed : arena.Closed)
    (hid : id.number < arena.size) (hnone : ∀ level, ¬arena.FirstWritten id level) (steps : Nat) :
    arena.inheritedVisibility steps id = .ok .publicAccess := by
  induction steps generalizing id with
  | zero => rfl
  | succ steps ih =>
    obtain ⟨declaration, hget⟩ := exists_get hid
    have hunwritten : declaration.visibility = .undefined := by
      by_contra hwritten
      exact hnone _ ⟨id, .refl, .own hget hwritten⟩
    rw [Arena.inheritedVisibility, hget, ok_bind, if_neg (not_not_intro hunwritten)]
    cases howner : declaration.owner with
    | topLevel => rfl
    | function outer =>
      have hinherits : arena.InheritsFrom id outer := ⟨declaration, hget, hunwritten, howner⟩
      exact ih (hclosed.lt_of_inheritsFrom hinherits) fun level hfirst =>
        hnone level (hfirst.outwards hinherits)
    | aggregate owner =>
      obtain ⟨aggregate, haggregate⟩ := hclosed.exists_aggregate hget howner
      have hbare : aggregate.visibility = .undefined := by
        by_contra hwritten
        exact hnone _ ⟨id, .refl, .aggregate hget hunwritten howner haggregate hwritten⟩
      simp [haggregate, hbare]

/-- Looking outwards finds what there is.  A function is found to be nested in its owner exactly if
it is the owner or the owner is around it, at any depth.  A declaration is as visible as the first
visibility says that is written on the way outwards, at the declaration, at a function around it or
at the aggregate that the last one is a member of, and public if none is written.  More steps find
the same. -/
theorem Closed.outwards_exact (hclosed : arena.Closed) (hid : id.number < arena.size)
    (owner : DeclId) :
    (∃ within, arena.isWithin id owner = .ok within ∧ (within = true ↔ arena.Within id owner) ∧
      ∀ steps, arena.size < steps → arena.enclosedWithin owner steps id = .ok within) ∧
    ∃ level, arena.visibility id = .ok level ∧ level ≠ .undefined ∧
      (∀ written, arena.FirstWritten id written → level = written) ∧
      ((∀ written, ¬arena.FirstWritten id written) → level = .publicAccess) ∧
      ∀ steps, arena.size < steps → arena.inheritedVisibility steps id = .ok level := by
  constructor
  · obtain ⟨within, hwithin, hiff⟩ := exists_isWithin hclosed owner hid
    refine ⟨within, hwithin, hiff, fun steps hsteps => ?_⟩
    obtain ⟨again, hagain, hagainIff⟩ := exists_enclosedWithin_iff hclosed owner hid hsteps
    rw [hagain, Bool.eq_iff_iff.mpr (hagainIff.trans hiff.symm)]
  · by_cases hsome : ∃ level, arena.FirstWritten id level
    · obtain ⟨level, hfirst⟩ := hsome
      have hfound : arena.visibility id = .ok level :=
        hfirst.inheritedVisibility (Nat.lt_succ_self _)
      refine ⟨level, hfound, hfirst.ne_undefined, fun written hwritten => ?_,
        fun hnone => absurd hfirst (hnone level), fun steps => hfirst.inheritedVisibility⟩
      have hother : arena.visibility id = .ok written :=
        hwritten.inheritedVisibility (Nat.lt_succ_self _)
      exact Except.ok.inj (hfound.symm.trans hother)
    · have hnone : ∀ level, ¬arena.FirstWritten id level := not_exists.mp hsome
      have hpublic := hclosed.inheritedVisibility_of_unwritten hid hnone
      exact ⟨.publicAccess, hpublic _, by decide,
        fun written hwritten => absurd hwritten (hnone written), fun _ => rfl,
        fun steps _ => hpublic steps⟩

/-- A local of a function in a member of a package class, and two functions each of which claims to
stand in the other one. -/
def methodAndRing : Arena where
  declarations := #[
    { Declaration.var .anonymous .synthetic none with owner := .function ⟨1⟩ },
    { Declaration.func .anonymous .synthetic .plain [] with owner := .function ⟨2⟩ },
    { Declaration.func .anonymous .synthetic .plain [] with owner := .aggregate ⟨0⟩ },
    { Declaration.func .anonymous .synthetic .plain [] with owner := .function ⟨4⟩ },
    { Declaration.func .anonymous .synthetic .plain [] with owner := .function ⟨3⟩ }]
  aggregates := #[{ name := .anonymous, span := .synthetic, kind := .classType
                    visibility := .package }]

theorem Closed.outwards_exact_methodAndRing :
    methodAndRing.Closed ∧ (⟨0⟩ : DeclId).number < methodAndRing.size ∧
    (∃ within, methodAndRing.isWithin ⟨0⟩ ⟨2⟩ = .ok within ∧
      (within = true ↔ methodAndRing.Within ⟨0⟩ ⟨2⟩) ∧ ∀ steps, methodAndRing.size < steps →
        methodAndRing.enclosedWithin ⟨2⟩ steps ⟨0⟩ = .ok within) ∧
    ∃ level, methodAndRing.visibility ⟨0⟩ = .ok level ∧ level ≠ .undefined ∧
      (∀ written, methodAndRing.FirstWritten ⟨0⟩ written → level = written) ∧
      ((∀ written, ¬methodAndRing.FirstWritten ⟨0⟩ written) → level = .publicAccess) ∧
      ∀ steps, methodAndRing.size < steps →
        methodAndRing.inheritedVisibility steps ⟨0⟩ = .ok level := by
  have hclosed : methodAndRing.Closed := by decide
  have hsize : (⟨0⟩ : DeclId).number < methodAndRing.size := by decide
  exact ⟨hclosed, hsize, hclosed.outwards_exact hsize ⟨2⟩⟩

-- The local is as visible as the class, and nothing is written on the ring.
example : methodAndRing.visibility ⟨0⟩ = .ok .package ∧
    methodAndRing.visibility ⟨3⟩ = .ok .publicAccess :=
  ⟨rfl, rfl⟩

end Arena

end Declarations
