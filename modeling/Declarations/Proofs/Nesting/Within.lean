import Declarations.Nesting.Capture
import Declarations.Proofs.Nesting.Escape

/-!
# Being nested in a function

Whether a function is nested in another is found by going outwards, one function at a time, for as
many steps as the arena has declarations and one more.  Malformed nesting may lead in a circle, but
then the search has met every function around before its steps are used up, so they are always
enough.
-/

namespace Declarations

open Relation

namespace Arena

def Within (arena : Arena) (function owner : DeclId) : Prop :=
  ReflTransGen arena.LocalTo function owner

variable {arena : Arena} {owner current outer : DeclId} {passed : List DeclId}

theorem Closed.lt_of_localTo (hclosed : arena.Closed) (hlocal : arena.LocalTo current outer) :
    outer.number < arena.size := by
  obtain ⟨declaration, hget, houter⟩ := hlocal
  exact hclosed.lt_of_localTo? hget houter

/-- Only functions around the first one are met on the way outwards. -/
theorem exists_enclosedWithin (hclosed : arena.Closed) (owner : DeclId) (steps : Nat)
    (hcurrent : current.number < arena.size) :
    ∃ within, arena.enclosedWithin owner steps current = .ok within ∧
      (within = true → arena.Within current owner) := by
  induction steps generalizing current with
  | zero => exact ⟨false, rfl, nofun⟩
  | succ steps ih =>
    by_cases hfound : current = owner
    · exact ⟨true, by simp [enclosedWithin, hfound], fun _ => hfound ▸ ReflTransGen.refl⟩
    · obtain ⟨declaration, hget⟩ := exists_get hcurrent
      cases houter : declaration.localTo? with
      | none => exact ⟨false, by simp [enclosedWithin, hfound, hget, houter], nofun⟩
      | some outer =>
        obtain ⟨within, hrest, hpath⟩ := ih (hclosed.lt_of_localTo? hget houter)
        refine ⟨within, by simp [enclosedWithin, hfound, hget, houter, hrest], ?_⟩
        intro hwithin
        exact ReflTransGen.head ((localTo_iff hget).mpr houter) (hpath hwithin)

/-- The way outwards up to `current`, on which nothing that is looked for was met. -/
structure Missed (arena : Arena) (wanted : DeclId → Prop) (passed : List DeclId)
    (current : DeclId) : Prop where
  nodup : passed.Nodup
  lt : ∀ id ∈ passed, id.number < arena.size
  not_wanted : ∀ id ∈ passed, ¬wanted id
  leads : ∀ id ∈ passed, ∀ outer, arena.LocalTo id outer → outer ∈ passed ∨ outer = current

namespace Missed

variable {wanted : DeclId → Prop}

/-- A way that has come back to where it was has met all the functions around. -/
theorem mem_of_path (hmissed : Missed arena wanted passed current) (hmem : current ∈ passed)
    (hpath : arena.Within current outer) : outer ∈ passed := by
  induction hpath with
  | refl => exact hmem
  | tail _ hlocal ih =>
    obtain hpassed | hback := hmissed.leads _ ih _ hlocal
    · exact hpassed
    · rwa [hback]

theorem step (hmissed : Missed arena wanted passed current) (hcurrent : current.number < arena.size)
    (hnew : current ∉ passed) (hother : ¬wanted current) (hlocal : arena.LocalTo current outer) :
    Missed arena wanted (current :: passed) outer where
  nodup := List.nodup_cons.mpr ⟨hnew, hmissed.nodup⟩
  lt := List.forall_mem_cons.mpr ⟨hcurrent, hmissed.lt⟩
  not_wanted := List.forall_mem_cons.mpr ⟨hother, hmissed.not_wanted⟩
  leads := by
    intro id hid next hnext
    obtain hsame | hpassed := List.mem_cons.mp hid
    · subst hsame
      obtain ⟨declaration, hget, houter⟩ := hlocal
      rw [localTo_iff hget, houter, Option.some.injEq] at hnext
      exact .inr hnext.symm
    · apply Or.inl
      apply List.mem_cons.mpr
      exact (hmissed.leads id hpassed next hnext).symm

end Missed

/-- A function around is found when there are more steps than declarations that were not passed. -/
theorem Missed.enclosedWithin (hclosed : arena.Closed) {steps : Nat}
    (hmissed : Missed arena (· = owner) passed current) (hcurrent : current.number < arena.size)
    (hsteps : arena.size < passed.length + steps)
    (hpath : arena.Within current owner) :
    arena.enclosedWithin owner steps current = .ok true := by
  induction steps generalizing passed current with
  | zero =>
    have hlength := DeclId.length_le_of_nodup hmissed.nodup hmissed.lt
    omega
  | succ steps ih =>
    by_cases hfound : current = owner
    · simp [Arena.enclosedWithin, hfound]
    · have hnew : current ∉ passed :=
        fun hmem => hmissed.not_wanted owner (hmissed.mem_of_path hmem hpath) rfl
      obtain hsame | ⟨outer, hlocal, hrest⟩ := hpath.cases_head
      · exact absurd hsame hfound
      · have hfurther : arena.enclosedWithin owner steps outer = .ok true := by
          apply ih (hmissed.step hcurrent hnew hfound hlocal) (hclosed.lt_of_localTo hlocal) _ hrest
          simp only [List.length_cons]
          omega
        obtain ⟨declaration, hget, houter⟩ := hlocal
        simp [Arena.enclosedWithin, hfound, hget, houter, hfurther]

/-- A walk with more steps than declarations tells exactly what the function is nested in. -/
theorem exists_enclosedWithin_iff (hclosed : arena.Closed) (owner : DeclId) {function : DeclId}
    (hfunction : function.number < arena.size) {steps : Nat} (hsteps : arena.size < steps) :
    ∃ within, arena.enclosedWithin owner steps function = .ok within ∧
      (within = true ↔ arena.Within function owner) := by
  obtain ⟨within, hwithin, hsound⟩ := exists_enclosedWithin hclosed owner steps hfunction
  refine ⟨within, hwithin, hsound, ?_⟩
  intro hpath
  have hstart : Missed arena (· = owner) [] function := ⟨List.nodup_nil, nofun, nofun, nofun⟩
  rw [hstart.enclosedWithin hclosed hfunction (by simpa using hsteps) hpath,
    Except.ok.injEq] at hwithin
  exact hwithin.symm

/-- In a closed arena it can always be said whether a function is nested in another, and the number
of steps cuts no nesting off. -/
theorem exists_isWithin (hclosed : arena.Closed) (owner : DeclId) {function : DeclId}
    (hfunction : function.number < arena.size) :
    ∃ within, arena.isWithin function owner = .ok within ∧
      (within = true ↔ arena.Within function owner) :=
  exists_enclosedWithin_iff hclosed owner hfunction (Nat.lt_succ_self _)

end Arena

end Declarations
