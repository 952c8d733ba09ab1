import Declarations.Proofs.Nesting.Outlive

/-!
# What the search for closures leaves behind

The search marks functions as it goes: those around an escaping caller, and at the end the function
that it was asked about.  It never takes a mark away.  And it marks nothing before it has found what
it looks for, so a search that finds nothing leaves the arena as it was.
-/

namespace Declarations

open Relation

namespace Arena

def IsMarked (arena : Arena) (id : DeclId) : Prop :=
  ∃ state, arena.asFunc? id = .ok (some state) ∧ state.requiresClosure = true

/-- Nothing has changed but marks of closures, and those were only set. -/
structure GainsMarks (before after : Arena) : Prop where
  marks : Marks before after
  isMarked : ∀ id, before.IsMarked id → after.IsMarked id

variable {arena before middle after : Arena} {id function outermost : DeclId}

theorem GainsMarks.refl : GainsMarks arena arena :=
  ⟨.refl, fun _ hmarked => hmarked⟩

theorem GainsMarks.trans (hfirst : GainsMarks before middle) (hsecond : GainsMarks middle after) :
    GainsMarks before after where
  marks := hfirst.marks.trans hsecond.marks
  isMarked id hmarked := hsecond.isMarked id (hfirst.isMarked id hmarked)

/-- A change that sets a mark at most. -/
theorem gainsMarks_of_modifyFunc {change : Func → Func}
    (hchange : ∀ state, (change state).unmarked = state.unmarked)
    (hkeeps : ∀ state, state.requiresClosure = true → (change state).requiresClosure = true)
    (hmodify : before.modifyFunc id change = .ok after) : GainsMarks before after where
  marks := unmarked_of_modifyFunc hchange hmodify
  isMarked other := by
    rintro ⟨state, hstate, hmarked⟩
    by_cases hsame : other = id
    · exact ⟨change state, by simp [asFunc?_of_modifyFunc hmodify, hsame, hsame ▸ hstate],
        hkeeps state hmarked⟩
    · exact ⟨state, by simp [asFunc?_of_modifyFunc hmodify, hsame, hstate], hmarked⟩

theorem gainsMarks_of_markOutwards {steps : Nat} {current : Option DeclId}
    (hrun : markOutwards outermost steps arena current = .ok after) : GainsMarks arena after := by
  induction steps generalizing arena current with
  | zero =>
    cases hrun
    exact .refl
  | succ steps ih =>
    cases current with
    | none =>
      cases hrun
      exact .refl
    | some id =>
      obtain ⟨marked, hmark, hrest⟩ := bind_eq_ok_iff.mp hrun
      have hmarked : GainsMarks arena marked := by
        refine gainsMarks_of_modifyFunc ?_ ?_ hmark
        · exact fun _ => rfl
        · exact fun _ _ => rfl
      split at hrest
      · cases hrest
        exact hmarked
      · obtain ⟨declaration, -, hothers⟩ := bind_eq_ok_iff.mp hrest
        exact hmarked.trans (ih hothers)

theorem gainsMarks_of_markClosures (hrun : arena.markClosures function outermost = .ok after) :
    GainsMarks arena after := by
  obtain ⟨declaration, -, hmark⟩ := bind_eq_ok_iff.mp hrun
  exact gainsMarks_of_markOutwards hmark

end Arena

namespace EscapeSearch

open Arena

/-- A part of the search has set marks if it has found something, and otherwise it has changed
nothing. -/
structure MarksIfFound (before : EscapeSearch) (found : Bool) (after : EscapeSearch) : Prop where
  gainsMarks : GainsMarks before.arena after.arena
  arena_eq : found = false → after.arena = before.arena

variable {search before middle after : EscapeSearch} {found later : Bool}
  {owner outermost function caller : DeclId}

theorem MarksIfFound.of_arena_eq (harena : after.arena = before.arena) :
    MarksIfFound before found after :=
  ⟨harena ▸ .refl, fun _ => harena⟩

theorem MarksIfFound.trans (hfirst : MarksIfFound before found middle)
    (hsecond : MarksIfFound middle later after) : MarksIfFound before (found || later) after where
  gainsMarks := hfirst.gainsMarks.trans hsecond.gainsMarks
  arena_eq hnone := by
    obtain ⟨hfound, hlater⟩ := Bool.or_eq_false_iff.mp hnone
    rw [hsecond.arena_eq hlater, hfirst.arena_eq hfound]

theorem marksIfFound_of_lookAt (hrun : search.lookAt outermost caller = .ok (found, after)) :
    MarksIfFound search found after := by
  obtain ⟨declaration, -, hrest⟩ := bind_eq_ok_iff.mp hrun
  split at hrest
  · obtain ⟨marked, hmark, hanswer⟩ := bind_eq_ok_iff.mp hrest
    cases hanswer
    exact ⟨gainsMarks_of_markClosures hmark, nofun⟩
  · cases hrest
    exact .of_arena_eq rfl

theorem marksIfFound_of_anyCaller
    {look : EscapeSearch → DeclId → Except Fault (Bool × EscapeSearch)}
    (hlook : ∀ {before found after caller}, look before caller = .ok (found, after) →
      MarksIfFound before found after)
    {callers : List DeclId} (hrun : anyCaller look outermost search callers = .ok (found, after)) :
    MarksIfFound search found after := by
  induction callers generalizing search found with
  | nil =>
    cases hrun
    exact .of_arena_eq rfl
  | cons caller callers ih =>
    obtain ⟨⟨escapes, looked⟩, hescapes, hrest⟩ := bind_eq_ok_iff.mp hrun
    obtain ⟨⟨called, middle⟩, hcalled, hrest⟩ := bind_eq_ok_iff.mp hrest
    obtain ⟨⟨others, last⟩, hothers, hanswer⟩ := bind_eq_ok_iff.mp hrest
    cases hanswer
    exact ((marksIfFound_of_lookAt hescapes).trans (hlook hcalled)).trans (ih hothers)

theorem marksIfFound_of_calledByEscaping (depth : Nat)
    (hrun : calledByEscaping outermost depth search function = .ok (found, after)) :
    MarksIfFound search found after := by
  induction depth generalizing search function found after with
  | zero => contradiction
  | succ depth ih =>
    rw [calledByEscaping] at hrun
    split at hrun
    · cases hrun
      exact .of_arena_eq rfl
    · obtain ⟨state?, -, hrest⟩ := bind_eq_ok_iff.mp hrun
      cases state? with
      | none =>
        cases hrest
        exact .of_arena_eq rfl
      | some state =>
        have hcallers := marksIfFound_of_anyCaller ih hrest
        exact ⟨hcallers.gainsMarks, hcallers.arena_eq⟩

theorem marksIfFound_of_canOutlive
    (hrun : search.canOutlive outermost function = .ok (found, after)) :
    MarksIfFound search found after := by
  obtain ⟨declaration, -, hrest⟩ := bind_eq_ok_iff.mp hrun
  split at hrest
  · cases hrest
    exact .of_arena_eq rfl
  · exact marksIfFound_of_calledByEscaping _ hrest

theorem marksIfFound_of_anyEnclosing {steps : Nat} {current : DeclId}
    (hrun : anyEnclosing owner steps search current = .ok (found, after)) :
    MarksIfFound search found after := by
  induction steps generalizing search current with
  | zero =>
    cases hrun
    exact .of_arena_eq rfl
  | succ steps ih =>
    rw [anyEnclosing] at hrun
    split at hrun
    · cases hrun
      exact .of_arena_eq rfl
    · obtain ⟨⟨outlives, middle⟩, hcan, hrest⟩ := bind_eq_ok_iff.mp hrun
      have hmiddle := marksIfFound_of_canOutlive hcan
      cases outlives with
      | true =>
        cases hrest
        exact hmiddle
      | false =>
        obtain ⟨declaration, -, houter⟩ := bind_eq_ok_iff.mp hrest
        cases hlocal : declaration.localTo? with
        | none =>
          simp only [hlocal, pure_eq_ok] at houter
          cases houter
          exact hmiddle
        | some outer =>
          simp only [hlocal] at houter
          exact hmiddle.trans (ih houter)

theorem marksIfFound_of_anyReferrer {referrers : List DeclId}
    (hrun : anyReferrer owner search referrers = .ok (found, after)) :
    MarksIfFound search found after := by
  induction referrers generalizing search with
  | nil =>
    cases hrun
    exact .of_arena_eq rfl
  | cons referrer referrers ih =>
    obtain ⟨⟨outlives, middle⟩, henclosing, hrest⟩ := bind_eq_ok_iff.mp hrun
    have hmiddle := marksIfFound_of_anyEnclosing henclosing
    cases outlives with
    | true =>
      cases hrest
      exact hmiddle
    | false => exact hmiddle.trans (ih hrest)

end EscapeSearch

namespace Arena

variable {arena before after : Arena} {owner id : DeclId} {state : Func} {needed : Bool}

theorem Marks.exists_asFunc? (hmarks : Marks before after)
    (hstate : before.asFunc? id = .ok (some state)) :
    ∃ marked, after.asFunc? id = .ok (some marked) ∧ marked.unmarked = state.unmarked := by
  obtain ⟨declaration, hget, hfunc⟩ := bind_eq_ok_iff.mp hstate
  obtain ⟨next, hnext, hsame⟩ := hmarks.exists_get hget
  have hunmarked : next.asFunc?.map Func.unmarked = declaration.asFunc?.map Func.unmarked := by
    rw [← Declaration.asFunc?_unmarked, hsame, Declaration.asFunc?_unmarked]
  rw [pure_eq_ok, Except.ok.injEq] at hfunc
  rw [hfunc, Option.map_some] at hunmarked
  obtain ⟨marked, hmarked, hstate⟩ := Option.map_eq_some_iff.mp hunmarked
  exact ⟨marked, by simp [asFunc?, hnext, hmarked], hstate⟩

/-- The mark of the function itself is set by the answer, and only by a positive one. -/
theorem exists_marked_of_needsClosure (hrun : arena.needsClosure owner = .ok (needed, after)) :
    GainsMarks arena after ∧ (needed = false → after = arena) ∧
      ∀ state, arena.asFunc? owner = .ok (some state) → ∃ marked,
        after.asFunc? owner = .ok (some marked) ∧
          marked.requiresClosure = (state.requiresClosure || needed) := by
  obtain ⟨state?, hstate, hrest⟩ := bind_eq_ok_iff.mp hrun
  cases state? with
  | none =>
    cases hrest
    exact ⟨.refl, fun _ => rfl, by simp [hstate]⟩
  | some state =>
    obtain ⟨referrers, -, hrest⟩ := bind_eq_ok_iff.mp hrest
    obtain ⟨⟨found, search⟩, hsearch, hrest⟩ := bind_eq_ok_iff.mp hrest
    obtain ⟨last, hmodify, hanswer⟩ := bind_eq_ok_iff.mp hrest
    cases hanswer
    have hfound : EscapeSearch.MarksIfFound { arena } needed search :=
      EscapeSearch.marksIfFound_of_anyReferrer hsearch
    have hset : GainsMarks search.arena after := by
      refine gainsMarks_of_modifyFunc (fun state => ?_) (fun state hmarked => ?_) hmodify
      · rfl
      · simp [hmarked]
    have hgains : GainsMarks arena after := hfound.gainsMarks.trans hset
    have hunchanged : needed = false → after = arena := by
      rintro rfl
      rw [eq_of_modifyFunc (by simp) hmodify, hfound.arena_eq rfl]
    refine ⟨hgains, hunchanged, fun state hstate => ?_⟩
    cases needed with
    | false => exact ⟨state, by rwa [hunchanged rfl], by simp⟩
    | true =>
      obtain ⟨seen, hseen, -⟩ := hfound.gainsMarks.marks.exists_asFunc? hstate
      exact ⟨_, asFunc?_self_of_modifyFunc hmodify hseen, by simp⟩

/-- Whether a function needs a closure can always be said.  It needs one exactly if, from a function
that refers to one of its captured locals, the way outwards comes, still inside the frame, to a
function that escapes or is called, directly or through others, by one that does.  With a positive
answer the function is marked, and nothing has changed but marks that were set; with a negative one
the arena stays as it is. -/
theorem Closed.needsClosure_marks (hclosed : arena.Closed) (howner : owner.number < arena.size) :
    ∃ needed after, arena.needsClosure owner = .ok (needed, after) ∧
      (needed = true ↔ ∃ referrer outer last, arena.RefersToFrame owner referrer ∧
        referrer ≠ owner ∧ ReflTransGen (arena.NestedIn owner) referrer outer ∧
        ReflTransGen arena.CalledBy outer last ∧ arena.Escapes last) ∧
      (∀ state, arena.asFunc? owner = .ok (some state) → ∃ marked,
        after.asFunc? owner = .ok (some marked) ∧
          marked.requiresClosure = (state.requiresClosure || needed)) ∧
      (needed = false → after = arena) ∧ GainsMarks arena after := by
  obtain ⟨needed, after, hrun, -, hneeded⟩ := exists_needsClosure hclosed howner
  obtain ⟨hgains, hunchanged, hmarked⟩ := exists_marked_of_needsClosure hrun
  refine ⟨needed, after, hrun, hneeded.trans ?_, hmarked, hunchanged, hgains⟩
  constructor
  · rintro ⟨referrer, hrefers, hne, outer, hpath, last, hcalls, hescapes⟩
    exact ⟨referrer, outer, last, hrefers, hne, hpath, hcalls, hescapes⟩
  · rintro ⟨referrer, outer, last, hrefers, hne, hpath, hcalls, hescapes⟩
    exact ⟨referrer, hrefers, hne, outer, hpath, last, hcalls, hescapes⟩

theorem Closed.needsClosure_marks_escapingCaller :
    escapingCaller.Closed ∧ (⟨0⟩ : DeclId).number < escapingCaller.size ∧
    ∃ needed after, escapingCaller.needsClosure ⟨0⟩ = .ok (needed, after) ∧
      (needed = true ↔ ∃ referrer outer last, escapingCaller.RefersToFrame ⟨0⟩ referrer ∧
        referrer ≠ ⟨0⟩ ∧ ReflTransGen (escapingCaller.NestedIn ⟨0⟩) referrer outer ∧
        ReflTransGen escapingCaller.CalledBy outer last ∧ escapingCaller.Escapes last) ∧
      (∀ state, escapingCaller.asFunc? ⟨0⟩ = .ok (some state) → ∃ marked,
        after.asFunc? ⟨0⟩ = .ok (some marked) ∧
          marked.requiresClosure = (state.requiresClosure || needed)) ∧
      (needed = false → after = escapingCaller) ∧ GainsMarks escapingCaller after := by
  have hclosed : escapingCaller.Closed := by decide
  exact ⟨hclosed, by decide, hclosed.needsClosure_marks (by decide)⟩

end Arena

end Declarations
