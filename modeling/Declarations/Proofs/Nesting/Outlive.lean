import Declarations.Proofs.Nesting.Escape

/-!
# Functions that outlive a frame

A nested function can run after the call of the function that owns the frame because it escapes,
because the function around it can, or because a function that calls it can.  The search for
closures looks at the functions around those that refer to the frame, but not at the functions
around their callers.  A call out of a function that outlives the frame is seen only if the caller
runs later by itself or by calls, or if the function that it calls is inside that function as well.
-/

namespace Declarations.Arena

open Relation

inductive CanOutlive (arena : Arena) (owner : DeclId) : DeclId → Prop where
  | escapes {function : DeclId} (ne : function ≠ owner) (escapes : arena.Escapes function) :
      CanOutlive arena owner function
  | nested {function outer : DeclId} (ne : function ≠ owner)
      (localTo : arena.LocalTo function outer) (outlives : CanOutlive arena owner outer) :
      CanOutlive arena owner function
  | called {function caller : DeclId} (ne : function ≠ owner)
      (calledBy : arena.CalledBy function caller) (outlives : CanOutlive arena owner caller) :
      CanOutlive arena owner function

/-- Where a function around a caller runs later, that is seen without going outwards from the
caller: the caller runs later as well, or the function that it calls is inside the same function. -/
def SeesCallers (arena : Arena) (owner : DeclId) : Prop :=
  ∀ callee caller outer, arena.CalledBy callee caller → caller ≠ owner →
    ReflTransGen (arena.NestedIn owner) caller outer → arena.RunsLater outer →
    arena.RunsLater caller ∨ ReflTransGen (arena.NestedIn owner) callee outer

variable {arena : Arena} {owner function : DeclId}

/-- The functions around callers need not be looked at when callers are siblings: the function
around a caller is then the function around the callee. -/
theorem seesCallers_of_siblings (hsiblings : ∀ callee caller outer, arena.CalledBy callee caller →
    arena.LocalTo caller outer → arena.LocalTo callee outer) : arena.SeesCallers owner := by
  intro callee caller outer hcalled _ hpath hlater
  obtain rfl | ⟨next, ⟨hlocal, hne⟩, hrest⟩ := hpath.cases_head
  · exact .inl hlater
  · exact .inr (hrest.head ⟨hsiblings callee caller next hcalled hlocal, hne⟩)

/-- Where the functions around callers need not be looked at, calls are followed far enough. -/
theorem CanOutlive.outlivesByCalls (hsees : arena.SeesCallers owner)
    (houtlives : arena.CanOutlive owner function) : arena.OutlivesByCalls owner function := by
  induction houtlives with
  | escapes ne escapes => exact escapes.runsLater.outlivesByCalls ne
  | nested ne localTo _ ih => exact ih.of_localTo localTo ne
  | called ne calledBy _ ih =>
    obtain ⟨hcaller, outer, hpath, hlater⟩ := ih
    obtain hruns | hinside := hsees _ _ outer calledBy hcaller hpath hlater
    · exact (hruns.of_calledBy calledBy).outlivesByCalls ne
    · exact ⟨ne, outer, hinside, hlater⟩

/-- Whether a function needs a closure can always be said.  It needs one just when a function that
refers to its frame outlives it by calls.  Where the functions around callers need not be looked at,
that holds of every function that refers to the frame and can outlive it. -/
theorem Closed.needsClosure_of_canOutlive (hclosed : arena.Closed)
    (howner : owner.number < arena.size) :
    ∃ needed after, arena.needsClosure owner = .ok (needed, after) ∧
      (needed = true ↔
        ∃ referrer, arena.RefersToFrame owner referrer ∧ arena.OutlivesByCalls owner referrer) ∧
      (arena.SeesCallers owner → ∀ referrer, arena.RefersToFrame owner referrer →
        arena.CanOutlive owner referrer → needed = true) := by
  obtain ⟨needed, after, hrun, -, hneeded⟩ := exists_needsClosure hclosed howner
  exact ⟨needed, after, hrun, hneeded, fun hsees referrer hrefers houtlives =>
    hneeded.mpr ⟨referrer, hrefers, houtlives.outlivesByCalls hsees⟩⟩

def nestedFunction (owner : DeclId) (state : Func) : Declaration :=
  { Declaration.func .anonymous .synthetic .plain [] with
    owner := .function owner
    entity := .func state }

def referredLocal (owner referrer : DeclId) : Declaration :=
  { Declaration.var .anonymous .synthetic none with
    owner := .function owner
    entity := .var { nestedReferences := [referrer] } }

/-- The function that refers to the local is called by a sibling whose address is taken. -/
def escapingCaller : Arena where
  declarations := #[
    { Declaration.func .anonymous .synthetic .plain [] with
      entity := .func { captured := [⟨1⟩] } },
    referredLocal ⟨0⟩ ⟨2⟩,
    nestedFunction ⟨0⟩ { siblingCallers := [⟨3⟩] },
    nestedFunction ⟨0⟩ { addressUses := 1 }]

theorem Closed.needsClosure_of_canOutlive_escapingCaller :
    escapingCaller.Closed ∧ escapingCaller.SeesCallers ⟨0⟩ ∧
      escapingCaller.RefersToFrame ⟨0⟩ ⟨2⟩ ∧ escapingCaller.CanOutlive ⟨0⟩ ⟨2⟩ ∧
      ∃ after, escapingCaller.needsClosure ⟨0⟩ = .ok (true, after) := by
  have hclosed : escapingCaller.Closed := by decide
  have hsees : escapingCaller.SeesCallers ⟨0⟩ := by
    apply seesCallers_of_siblings
    rintro callee caller outer ⟨declaration, state, hget, hfunc, hmem⟩ hlocal
    have hcallers : ∀ found ∈ escapingCaller.declarations.toList, ∀ state ∈ found.asFunc?,
        ∀ caller ∈ state.siblingCallers, caller = ⟨3⟩ ∧ found.localTo? = some ⟨0⟩ := by decide
    obtain ⟨rfl, howner⟩ := hcallers declaration (mem_of_get hget) state hfunc caller hmem
    have hcaller : escapingCaller.get ⟨3⟩ = .ok (nestedFunction ⟨0⟩ { addressUses := 1 }) := rfl
    have houter : some ⟨0⟩ = some outer := (localTo_iff hcaller).mp hlocal
    exact ⟨declaration, hget, howner.trans houter⟩
  have hrefers : escapingCaller.RefersToFrame ⟨0⟩ ⟨2⟩ :=
    ⟨_, ⟨1⟩, _, rfl, List.mem_cons_self, rfl, List.mem_cons_self⟩
  have houtlives : escapingCaller.CanOutlive ⟨0⟩ ⟨2⟩ :=
    .called (by decide) ⟨_, _, rfl, rfl, List.mem_cons_self⟩ (.escapes (by decide) ⟨_, rfl, rfl⟩)
  have howner : (⟨0⟩ : DeclId).number < escapingCaller.size := by decide
  obtain ⟨needed, after, hrun, -, hneeded⟩ := hclosed.needsClosure_of_canOutlive howner
  obtain rfl := hneeded hsees ⟨2⟩ hrefers houtlives
  exact ⟨hclosed, hsees, hrefers, houtlives, after, hrun⟩

/-- The function that refers to the local is called out of a sibling whose address is taken. -/
def callOutOfEscaping : Arena where
  declarations := #[
    { Declaration.func .anonymous .synthetic .plain [] with
      entity := .func { captured := [⟨1⟩] } },
    referredLocal ⟨0⟩ ⟨2⟩,
    nestedFunction ⟨0⟩ { siblingCallers := [⟨4⟩] },
    nestedFunction ⟨0⟩ { addressUses := 1 },
    nestedFunction ⟨3⟩ {}]

/-- The caller can outlive the frame because of the function around it, and no closure is made. -/
theorem needsClosure_false_callOutOfEscaping :
    callOutOfEscaping.Closed ∧ callOutOfEscaping.RefersToFrame ⟨0⟩ ⟨2⟩ ∧
      callOutOfEscaping.CanOutlive ⟨0⟩ ⟨2⟩ ∧
      callOutOfEscaping.needsClosure ⟨0⟩ = .ok (false, callOutOfEscaping) := by
  refine ⟨by decide, ⟨_, ⟨1⟩, _, rfl, List.mem_cons_self, rfl, List.mem_cons_self⟩, ?_, rfl⟩
  have hescaping : callOutOfEscaping.CanOutlive ⟨0⟩ ⟨3⟩ := .escapes (by decide) ⟨_, rfl, rfl⟩
  have hcaller : callOutOfEscaping.CanOutlive ⟨0⟩ ⟨4⟩ :=
    .nested (by decide) ⟨_, rfl, rfl⟩ hescaping
  exact .called (by decide) ⟨_, _, rfl, rfl, List.mem_cons_self⟩ hcaller

end Declarations.Arena
