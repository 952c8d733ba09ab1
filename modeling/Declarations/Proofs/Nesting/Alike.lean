import Declarations.Nesting.Closure
import Declarations.Proofs.Inference.Alike

/-!
# Closures and the record of attributes

The search for functions that need a closure looks at owners, references and callers, none of which
inference ever writes.  Arenas with the same record of some attributes go through the search side by
side.
-/

namespace Declarations

namespace Declaration

variable {left right : Declaration} {kept : Attributes}

theorem localTo?_congr (hkeep : left.keep kept = right.keep kept) :
    left.localTo? = right.localTo? := by
  have hlocal : ∀ declaration : Declaration,
      (declaration.keep kept).localTo? = declaration.localTo? := by
    intro declaration
    cases hfunc : declaration.asFunc? with
    | none => rw [keep_of_asFunc?_eq_none hfunc]
    | some state => rw [keep_of_asFunc? hfunc]; rfl
  rw [← hlocal, hkeep, hlocal]

theorem escapes_congr (hkeep : left.keep kept = right.keep kept) :
    left.escapes = right.escapes := by
  have hescapes : ∀ declaration : Declaration,
      (declaration.keep kept).escapes = declaration.escapes := by
    intro declaration
    simp only [escapes, objectOf?_keep, asFunc?_keep]
    cases declaration.asFunc? <;> rfl
  rw [← hescapes, hkeep, hescapes]

end Declaration

namespace Arena

variable {left right : Arena} {kept : Attributes} {change : Func → Func}

section Congruence

variable (hkeep : left.keep kept = right.keep kept)
include hkeep

theorem modifyFunc_alike (id : DeclId)
    (hchange : ∀ state, (change state).keep kept = change (state.keep kept)) :
    Alike (keep kept) (left.modifyFunc id change) (right.modifyFunc id change) := by
  apply modify_alike hkeep
  intro first second hsame
  rw [Declaration.keep_mapFunc hchange, hsame, Declaration.keep_mapFunc hchange]

theorem markOutwards_alike (outermost : DeclId) (steps : Nat) (current : Option DeclId) :
    Alike (keep kept) (markOutwards outermost steps left current)
      (markOutwards outermost steps right current) := by
  induction steps generalizing left right current with
  | zero => exact .ok hkeep
  | succ steps ih =>
    cases current with
    | none => exact .ok hkeep
    | some current =>
      apply Alike.bind
      · exact modifyFunc_alike hkeep current fun _ => rfl
      · intro left right hmarked
        split
        · exact .ok hmarked
        · apply (get_alike hmarked current).bind
          intro declaration other hsame
          rw [Declaration.localTo?_congr hsame]
          exact ih hmarked other.localTo?

theorem markClosures_alike (function outermost : DeclId) :
    Alike (keep kept) (left.markClosures function outermost)
      (right.markClosures function outermost) := by
  rw [markClosures, markClosures, size_of_keep_eq hkeep]
  apply (get_alike hkeep function).bind
  intro declaration other hsame
  rw [Declaration.localTo?_congr hsame]
  exact markOutwards_alike hkeep outermost _ _

end Congruence

end Arena

namespace EscapeSearch

def keep (kept : Attributes) (search : EscapeSearch) : EscapeSearch :=
  { search with arena := search.arena.keep kept }

variable {left right : EscapeSearch} {kept : Attributes}

theorem keep_eq_iff : left.keep kept = right.keep kept ↔
    left.arena.keep kept = right.arena.keep kept ∧ left.visited = right.visited := by
  simp only [keep, mk.injEq]

section Congruence

variable (hkeep : left.keep kept = right.keep kept)
include hkeep

theorem lookAt_alike (outermost caller : DeclId) :
    Alike (Prod.map id (keep kept)) (left.lookAt outermost caller)
      (right.lookAt outermost caller) := by
  obtain ⟨harena, hvisited⟩ := keep_eq_iff.mp hkeep
  apply (Arena.get_alike harena caller).bind
  intro declaration other hsame
  rw [Declaration.escapes_congr hsame]
  split
  · apply (Arena.markClosures_alike harena caller outermost).bind
    intro _ _ hmarked
    exact .answer (keep_eq_iff.mpr ⟨hmarked, hvisited⟩)
  · exact .answer hkeep

theorem anyCaller_alike {first second : EscapeSearch → DeclId → Except Fault (Bool × EscapeSearch)}
    (hlater : ∀ left right : EscapeSearch, left.keep kept = right.keep kept → ∀ caller,
      Alike (Prod.map id (keep kept)) (first left caller) (second right caller))
    (outermost : DeclId) (callers : List DeclId) :
    Alike (Prod.map id (keep kept)) (anyCaller first outermost left callers)
      (anyCaller second outermost right callers) := by
  induction callers generalizing left right with
  | nil => exact .answer hkeep
  | cons caller callers ih =>
    apply (lookAt_alike hkeep outermost caller).bind_answer
    intro escapes left right hlooked
    apply (hlater left right hlooked caller).bind_answer
    intro called left right hcalled
    apply (ih hcalled).bind_answer
    intro others left right hothers
    exact .answer hothers

theorem calledByEscaping_alike (outermost : DeclId) (depth : Nat) (function : DeclId) :
    Alike (Prod.map id (keep kept)) (calledByEscaping outermost depth left function)
      (calledByEscaping outermost depth right function) := by
  induction depth generalizing left right function with
  | zero => exact .refl _
  | succ depth ih =>
    obtain ⟨harena, hvisited⟩ := keep_eq_iff.mp hkeep
    simp only [calledByEscaping, hvisited]
    split
    · exact .answer hkeep
    · have hentered : keep kept { left with visited := function :: right.visited } =
          keep kept { right with visited := function :: right.visited } :=
        keep_eq_iff.mpr ⟨harena, rfl⟩
      simp only [Arena.asFunc?, bind_assoc, pure_eq_ok, ok_bind]
      apply (Arena.get_alike harena function).bind
      intro declaration other hsame
      cases hfunc : declaration.asFunc? with
      | none =>
        rw [Declaration.asFunc?_eq_none_of_keep_eq hsame hfunc]
        exact .answer hentered
      | some state =>
        obtain ⟨found, hfound, hstate⟩ := Declaration.exists_asFunc?_of_keep_eq hsame hfunc
        have hcallers : state.siblingCallers = found.siblingCallers :=
          (congrArg Func.siblingCallers hstate :)
        simp only [hfound, hcallers]
        exact anyCaller_alike hentered (fun _ _ hsame caller => ih hsame caller) outermost _

theorem canOutlive_alike (outermost function : DeclId) :
    Alike (Prod.map id (keep kept)) (left.canOutlive outermost function)
      (right.canOutlive outermost function) := by
  obtain ⟨harena, -⟩ := keep_eq_iff.mp hkeep
  rw [canOutlive, canOutlive, Arena.size_of_keep_eq harena]
  apply (Arena.get_alike harena function).bind
  intro declaration other hsame
  rw [Declaration.escapes_congr hsame]
  split
  · exact .answer hkeep
  · exact calledByEscaping_alike hkeep outermost _ function

theorem anyEnclosing_alike (outermost : DeclId) (steps : Nat) (current : DeclId) :
    Alike (Prod.map id (keep kept)) (anyEnclosing outermost steps left current)
      (anyEnclosing outermost steps right current) := by
  induction steps generalizing left right current with
  | zero => exact .answer hkeep
  | succ steps ih =>
    simp only [anyEnclosing]
    split
    · exact .answer hkeep
    · apply (canOutlive_alike hkeep outermost current).bind_answer
      intro outlives left right hsearched
      cases outlives with
      | true => exact .answer hsearched
      | false =>
        apply (Arena.get_alike (keep_eq_iff.mp hsearched).1 current).bind
        intro declaration other hsame
        rw [Declaration.localTo?_congr hsame]
        cases other.localTo? with
        | none => exact .answer hsearched
        | some outer => exact ih hsearched outer

theorem anyReferrer_alike (owner : DeclId) (referrers : List DeclId) :
    Alike (Prod.map id (keep kept)) (anyReferrer owner left referrers)
      (anyReferrer owner right referrers) := by
  induction referrers generalizing left right with
  | nil => exact .answer hkeep
  | cons referrer referrers ih =>
    rw [anyReferrer, anyReferrer, Arena.size_of_keep_eq (keep_eq_iff.mp hkeep).1]
    apply (anyEnclosing_alike hkeep owner _ referrer).bind_answer
    intro outlives left right hsearched
    cases outlives with
    | true => exact .answer hsearched
    | false => exact ih hsearched

end Congruence

end EscapeSearch

namespace Arena

variable {left right : Arena} {kept : Attributes}

/-- The variables are no part of the record. -/
theorem referrers_keep (arena : Arena) (kept : Attributes) (locals : List DeclId) :
    (arena.keep kept).referrers locals = arena.referrers locals := by
  have hvariables : (arena.keep kept).asVariable? = arena.asVariable? := by
    funext id
    simp only [asVariable?, get_keep, map_bind, Declaration.asVariable?_keep]
  rw [referrers, referrers, hvariables]

/-- Whether a function needs a closure does not depend on the record. -/
theorem needsClosure_alike (hkeep : left.keep kept = right.keep kept) (function : DeclId) :
    Alike (Prod.map id (keep kept)) (left.needsClosure function)
      (right.needsClosure function) := by
  simp only [needsClosure, asFunc?, bind_assoc, pure_eq_ok, ok_bind]
  apply (get_alike hkeep function).bind
  intro declaration other hsame
  cases hfunc : declaration.asFunc? with
  | none =>
    rw [Declaration.asFunc?_eq_none_of_keep_eq hsame hfunc]
    exact .answer hkeep
  | some state =>
    obtain ⟨found, hfound, hstate⟩ := Declaration.exists_asFunc?_of_keep_eq hsame hfunc
    have hcaptured : state.captured = found.captured :=
      (congrArg Func.captured hstate :)
    have hreferrers : left.referrers found.captured = right.referrers found.captured := by
      rw [← referrers_keep left kept, hkeep, referrers_keep]
    simp only [hfound, hcaptured, hreferrers]
    apply Alike.bind_same
    intro referrers
    have hstart : EscapeSearch.keep kept { arena := left } =
        EscapeSearch.keep kept { arena := right } := EscapeSearch.keep_eq_iff.mpr ⟨hkeep, rfl⟩
    apply (EscapeSearch.anyReferrer_alike hstart function referrers).bind_answer
    intro needed _ _ hsearched
    apply Alike.bind
    · exact modifyFunc_alike (EscapeSearch.keep_eq_iff.mp hsearched).1 function fun _ => rfl
    · intro _ _ hmarked
      exact .answer hmarked

end Arena

end Declarations
