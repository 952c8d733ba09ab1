import Declarations.Proofs.Nesting.Marks
import Mathlib.Logic.Relation

/-!
# The search for closures

Whether a function needs a closure is found from the functions that refer to its frame.  From each
of them the search goes outwards, as long as it stays inside the frame, and looks at the callers of
the functions that it meets, at their callers, and so on.  The callers of a function are looked at
once, so the search ends.  A function that is passed over later hides no escape: the first escape
that is found ends the search as a whole.
-/

namespace Declarations

open Relation

namespace Arena

def LocalTo (arena : Arena) (inner outer : DeclId) : Prop :=
  ∃ declaration, arena.get inner = .ok declaration ∧ declaration.localTo? = some outer

def CalledBy (arena : Arena) (callee caller : DeclId) : Prop :=
  ∃ declaration state, arena.get callee = .ok declaration ∧ declaration.asFunc? = some state ∧
    caller ∈ state.siblingCallers

/-- The declaration can by itself run after the call of the function around it. -/
def Escapes (arena : Arena) (id : DeclId) : Prop :=
  ∃ declaration, arena.get id = .ok declaration ∧ declaration.escapes = true

/-- The function escapes, or it is called, directly or through others, by one that does. -/
def RunsLater (arena : Arena) (function : DeclId) : Prop :=
  ∃ caller, ReflTransGen arena.CalledBy function caller ∧ arena.Escapes caller

def NestedIn (arena : Arena) (owner inner outer : DeclId) : Prop :=
  arena.LocalTo inner outer ∧ outer ≠ owner

/-- The function, or one of those around it inside the frame of `owner`, runs later. -/
def OutlivesByCalls (arena : Arena) (owner function : DeclId) : Prop :=
  function ≠ owner ∧ ∃ outer, ReflTransGen (arena.NestedIn owner) function outer ∧
    arena.RunsLater outer

def RefersToFrame (arena : Arena) (owner referrer : DeclId) : Prop :=
  ∃ state id referred, arena.asFunc? owner = .ok (some state) ∧ id ∈ state.captured ∧
    arena.asVariable? id = .ok (some referred) ∧ referrer ∈ referred.nestedReferences

variable {arena before after : Arena} {id function caller outer owner : DeclId}
  {declaration : Declaration}

theorem localTo_iff (hget : arena.get id = .ok declaration) :
    arena.LocalTo id outer ↔ declaration.localTo? = some outer := by
  simp [LocalTo, hget]

theorem calledBy_iff (hget : arena.get id = .ok declaration) :
    arena.CalledBy id caller ↔
      ∃ state, declaration.asFunc? = some state ∧ caller ∈ state.siblingCallers := by
  simp [CalledBy, hget]

theorem escapes_iff (hget : arena.get id = .ok declaration) :
    arena.Escapes id ↔ declaration.escapes = true := by
  simp [Escapes, hget]

theorem Escapes.runsLater (hescapes : arena.Escapes function) : arena.RunsLater function :=
  ⟨function, .refl, hescapes⟩

theorem RunsLater.of_calledBy (hcalled : arena.CalledBy function caller)
    (hlater : arena.RunsLater caller) : arena.RunsLater function := by
  obtain ⟨last, hpath, hescapes⟩ := hlater
  exact ⟨last, hpath.head hcalled, hescapes⟩

theorem RunsLater.outlivesByCalls (hlater : arena.RunsLater function) (hne : function ≠ owner) :
    arena.OutlivesByCalls owner function :=
  ⟨hne, function, .refl, hlater⟩

theorem OutlivesByCalls.of_localTo (hlocal : arena.LocalTo function outer) (hne : function ≠ owner)
    (houtlives : arena.OutlivesByCalls owner outer) : arena.OutlivesByCalls owner function := by
  obtain ⟨houter, last, hpath, hlater⟩ := houtlives
  exact ⟨hne, last, hpath.head ⟨hlocal, houter⟩, hlater⟩

/-- A caller that is remembered in a closed arena can be read. -/
theorem Closed.lt_of_calledBy (hclosed : arena.Closed) (hcalled : arena.CalledBy function caller) :
    caller.number < arena.size := by
  obtain ⟨declaration, state, hget, hfunc, hmem⟩ := hcalled
  apply hclosed.lt_of_mem_handles hget
  simp [Declaration.handles, Declaration.entity_of_asFunc? hfunc, Entity.handles, Func.handles,
    hmem]

/-- A function that refers to a frame of a closed arena can be read. -/
theorem Closed.lt_of_refersToFrame (hclosed : arena.Closed)
    (hrefers : arena.RefersToFrame owner function) : function.number < arena.size := by
  obtain ⟨-, id, referred, -, -, hvariable, hmem⟩ := hrefers
  obtain ⟨declaration, hget, hvariable⟩ := bind_eq_ok_iff.mp hvariable
  apply hclosed.lt_of_mem_handles hget
  simp only [pure_eq_ok, Except.ok.injEq] at hvariable
  simp [Declaration.handles, Declaration.entity_of_asVariable? hvariable, Entity.handles, hmem]

/-- What the search reads of a declaration does not depend on marks. -/
theorem Marks.exists_seen (hmarks : Marks before after) (hget : before.get id = .ok declaration) :
    ∃ seen, after.get id = .ok seen ∧ seen.escapes = declaration.escapes ∧
      seen.localTo? = declaration.localTo? ∧
      seen.asFunc?.map Func.siblingCallers = declaration.asFunc?.map Func.siblingCallers := by
  obtain ⟨seen, hseen, hsame⟩ := hmarks.exists_get hget
  refine ⟨seen, hseen, ?_, ?_, ?_⟩
  · rw [← Declaration.escapes_unmarked, hsame, Declaration.escapes_unmarked]
  · rw [← Declaration.localTo?_unmarked, hsame, Declaration.localTo?_unmarked]
  · have hfunc := congrArg (fun found => found.asFunc?.map Func.siblingCallers) hsame
    simp only [Declaration.asFunc?_unmarked, Option.map_map] at hfunc
    exact hfunc

end Arena

namespace EscapeSearch

open Arena

/-- The search has changed only marks and visits functions of the arena, each of them once. -/
structure Sound (arena : Arena) (search : EscapeSearch) : Prop where
  marks : Marks arena search.arena
  nodup : search.visited.Nodup
  visited_lt : ∀ id ∈ search.visited, id.number < arena.size

/-- No caller of a function that was visited meanwhile escapes, and all of them were visited. -/
def Clears (arena : Arena) (before after : List DeclId) : Prop :=
  ∀ id ∈ after, id ∉ before → ∀ caller, arena.CalledBy id caller →
    ¬arena.Escapes caller ∧ caller ∈ after

/-- What a part of the search leaves behind.  If it finds something, that is right, and otherwise it
has cleared what it visited. -/
structure Advances (arena : Arena) (right : Prop) (before : EscapeSearch) (found : Bool)
    (after : EscapeSearch) : Prop where
  sound : after.Sound arena
  visited_suffix : before.visited <:+ after.visited
  right : found = true → right
  clears : found = false → Clears arena before.visited after.visited

variable {arena : Arena} {search : EscapeSearch} {before middle after : List DeclId}
  {owner function caller : DeclId}

theorem Clears.refl : Clears arena before before :=
  fun _ hid hnew => absurd hid hnew

theorem Clears.trans (hfirst : Clears arena before middle) (hsecond : Clears arena middle after)
    (hsubset : middle ⊆ after) : Clears arena before after := by
  intro id hid hnew caller hcalled
  by_cases hmiddle : id ∈ middle
  · exact ⟨(hfirst id hmiddle hnew caller hcalled).1,
      hsubset (hfirst id hmiddle hnew caller hcalled).2⟩
  · exact hsecond id hid hmiddle caller hcalled

/-- Where everything visited is cleared, a visited function that does not escape does not run
later. -/
theorem Clears.not_runsLater (hclears : Clears arena [] after) (hvisited : function ∈ after)
    (hescapes : ¬arena.Escapes function) : ¬arena.RunsLater function := by
  rintro ⟨last, hpath, hlast⟩
  have hclear : ∀ {id : DeclId}, ReflTransGen arena.CalledBy function id →
      id ∈ after ∧ ¬arena.Escapes id := by
    intro id hpath
    induction hpath with
    | refl => exact ⟨hvisited, hescapes⟩
    | tail _ hcalled ih =>
      exact (hclears _ ih.1 List.not_mem_nil _ hcalled).symm
  exact (hclear hpath).2 hlast

theorem Sound.length_le (hsound : search.Sound arena) : search.visited.length ≤ arena.size :=
  DeclId.length_le_of_nodup hsound.nodup hsound.visited_lt

/-- A part of the search that finds nothing and visits nothing. -/
theorem Sound.advances (hsound : search.Sound arena) {right : Prop} :
    Advances arena right search false search :=
  ⟨hsound, List.suffix_rfl, nofun, fun _ => .refl⟩

/-- Looking at a caller says whether it escapes. -/
theorem exists_lookAt (hclosed : arena.Closed) (hsound : search.Sound arena) (outermost : DeclId)
    (hcaller : caller.number < arena.size) :
    ∃ found after, search.lookAt outermost caller = .ok (found, after) ∧ after.Sound arena ∧
      after.visited = search.visited ∧ (found = true ↔ arena.Escapes caller) := by
  obtain ⟨declaration, hget⟩ := exists_get hcaller
  obtain ⟨seen, hseen, hsame, -⟩ := hsound.marks.exists_seen hget
  rw [escapes_iff hget]
  cases hescapes : declaration.escapes with
  | true =>
    obtain ⟨marked, hmark, hmarks⟩ := markClosures_marks (hsound.marks.closed hclosed) outermost
      (by rwa [hsound.marks.size_eq])
    exact ⟨true, { search with arena := marked }, by simp [lookAt, hseen, hsame, hescapes, hmark],
      ⟨hsound.marks.trans hmarks, hsound.nodup, hsound.visited_lt⟩, rfl, by simp⟩
  | false =>
    exact ⟨false, search, by simp [lookAt, hseen, hsame, hescapes], hsound, rfl, by simp⟩

/-- A look at the callers of a function comes to an end when there are more levels than functions
that were not visited, and says whether the function runs later. -/
def Traces (arena : Arena) (depth : Nat)
    (later : EscapeSearch → DeclId → Except Fault (Bool × EscapeSearch)) : Prop :=
  ∀ {search : EscapeSearch} {function : DeclId}, search.Sound arena →
    function.number < arena.size → arena.size < depth + search.visited.length →
    ∃ found after, later search function = .ok (found, after) ∧
      Advances arena (arena.RunsLater function) search found after ∧
      (found = false → function ∈ after.visited)

theorem exists_anyCaller (hclosed : arena.Closed) (outermost : DeclId) {depth : Nat}
    {later : EscapeSearch → DeclId → Except Fault (Bool × EscapeSearch)}
    (hlater : Traces arena depth later) (hsound : search.Sound arena) {callers : List DeclId}
    (hcallers : ∀ caller ∈ callers, caller.number < arena.size)
    (hdepth : arena.size < depth + search.visited.length) :
    ∃ found after, anyCaller later outermost search callers = .ok (found, after) ∧
      Advances arena (∃ caller ∈ callers, arena.RunsLater caller) search found after ∧
      (found = false → ∀ caller ∈ callers, ¬arena.Escapes caller ∧ caller ∈ after.visited) := by
  induction callers generalizing search with
  | nil => exact ⟨false, search, rfl, hsound.advances, by simp⟩
  | cons caller callers ih =>
    obtain ⟨hcaller, hcallers⟩ := List.forall_mem_cons.mp hcallers
    obtain ⟨escapes, looked, hlook, hlooked, hsame, hescapes⟩ :=
      exists_lookAt hclosed hsound outermost hcaller
    obtain ⟨called, middle, hcalled, hmiddle, hvisited⟩ :=
      hlater hlooked hcaller (by rwa [hsame])
    have hfirst : search.visited <:+ middle.visited := hsame ▸ hmiddle.visited_suffix
    obtain ⟨others, after, hrest, hafter, hothers⟩ := ih hmiddle.sound hcallers (by
      have := hfirst.length_le
      omega)
    refine ⟨escapes || called || others, after, by simp [anyCaller, hlook, hcalled, hrest],
      ⟨hafter.sound, hfirst.trans hafter.visited_suffix, ?_, ?_⟩, ?_⟩
    · intro hfound
      rw [Bool.or_eq_true, Bool.or_eq_true] at hfound
      obtain (hfound | hfound) | hfound := hfound
      · exact ⟨caller, List.mem_cons_self, (hescapes.mp hfound).runsLater⟩
      · exact ⟨caller, List.mem_cons_self, hmiddle.right hfound⟩
      · obtain ⟨other, hother, hright⟩ := hafter.right hfound
        exact ⟨other, List.mem_cons_of_mem caller hother, hright⟩
    · -- All callers are looked at, so one escape anywhere makes the answer positive.
      intro hfound
      simp only [Bool.or_eq_false_iff] at hfound
      exact (hsame ▸ hmiddle.clears hfound.1.2).trans (hafter.clears hfound.2)
        hafter.visited_suffix.subset
    · intro hfound
      simp only [Bool.or_eq_false_iff] at hfound
      refine List.forall_mem_cons.mpr ⟨⟨?_, ?_⟩, hothers hfound.2⟩
      · rw [← hescapes, hfound.1.1]
        exact Bool.false_ne_true
      · exact hafter.visited_suffix.subset (hvisited hfound.1.2)

/-- A function is entered before its callers are looked at. -/
theorem Sound.enter (hsound : search.Sound arena) (hfunction : function.number < arena.size)
    (hnew : function ∉ search.visited) :
    Sound arena { search with visited := function :: search.visited } :=
  ⟨hsound.marks, List.nodup_cons.mpr ⟨hnew, hsound.nodup⟩,
    List.forall_mem_cons.mpr ⟨hfunction, hsound.visited_lt⟩⟩

theorem calledByEscaping_traces (hclosed : arena.Closed) (outermost : DeclId) (depth : Nat) :
    Traces arena depth (calledByEscaping outermost depth) := by
  induction depth with
  | zero =>
    intro search function hsound _ hdepth
    have := hsound.length_le
    omega
  | succ depth ih =>
    intro search function hsound hfunction hdepth
    by_cases hvisited : function ∈ search.visited
    · exact ⟨false, search, by simp [calledByEscaping, hvisited], hsound.advances,
        fun _ => hvisited⟩
    obtain ⟨declaration, hget⟩ := exists_get hfunction
    obtain ⟨seen, hseen, -, -, hsame⟩ := hsound.marks.exists_seen hget
    have hentered := hsound.enter hfunction hvisited
    cases hfunc : seen.asFunc? with
    | none =>
      have hnone : declaration.asFunc? = none := by simpa [hfunc] using hsame.symm
      refine ⟨false, _, by simp [calledByEscaping, hvisited, asFunc?, hseen, hfunc],
        ⟨hentered, List.suffix_cons .., nofun, ?_⟩, fun _ => List.mem_cons_self⟩
      intro _ id hid hnew caller hcalled
      obtain rfl := (List.mem_cons.mp hid).resolve_right hnew
      obtain ⟨state, hstate, -⟩ := (calledBy_iff hget).mp hcalled
      rw [hnone] at hstate
      contradiction
    | some state =>
      have hcalls : ∀ caller, arena.CalledBy function caller ↔ caller ∈ state.siblingCallers := by
        intro caller
        obtain ⟨original, hfunc, hcallers⟩ : ∃ original, declaration.asFunc? = some original ∧
            original.siblingCallers = state.siblingCallers :=
          Option.map_eq_some_iff.mp (by rw [← hsame, hfunc, Option.map_some])
        simp [calledBy_iff hget, hfunc, hcallers]
      obtain ⟨found, after, hrun, hafter, hothers⟩ := exists_anyCaller hclosed outermost ih hentered
        (fun caller hcaller => hclosed.lt_of_calledBy ((hcalls caller).mpr hcaller))
        (by simp only [List.length_cons]; omega)
      have hmem : function ∈ after.visited := hafter.visited_suffix.subset List.mem_cons_self
      refine ⟨found, after, by simp [calledByEscaping, hvisited, asFunc?, hseen, hfunc, hrun],
        ⟨hafter.sound, (List.suffix_cons ..).trans hafter.visited_suffix, ?_, ?_⟩, fun _ => hmem⟩
      · intro hfound
        obtain ⟨caller, hcaller, hlater⟩ := hafter.right hfound
        exact hlater.of_calledBy ((hcalls caller).mpr hcaller)
      · intro hfound id hid hnew caller hcalled
        by_cases hsame : id = function
        · subst id
          exact hothers hfound caller ((hcalls caller).mp hcalled)
        · exact hafter.clears hfound id hid (by simp [hsame, hnew]) caller hcalled

/-- Whether a function runs later is found by a search that has cleared what it visited. -/
theorem exists_canOutlive (hclosed : arena.Closed) (hsound : search.Sound arena)
    (outermost : DeclId) (hfunction : function.number < arena.size) :
    ∃ found after, search.canOutlive outermost function = .ok (found, after) ∧
      Advances arena (arena.RunsLater function) search found after ∧
      (found = false → function ∈ after.visited ∧ ¬arena.Escapes function) := by
  obtain ⟨declaration, hget⟩ := exists_get hfunction
  obtain ⟨seen, hseen, hsame, -⟩ := hsound.marks.exists_seen hget
  have hescapesIff := escapes_iff hget
  cases hescapes : declaration.escapes with
  | true =>
    exact ⟨true, search, by simp [canOutlive, hseen, hsame, hescapes],
      ⟨hsound, List.suffix_rfl, fun _ => (hescapesIff.mpr hescapes).runsLater, nofun⟩, nofun⟩
  | false =>
    obtain ⟨found, after, hrun, hafter, hvisited⟩ := calledByEscaping_traces hclosed outermost
      (search.arena.size + 1) hsound hfunction (by rw [hsound.marks.size_eq]; omega)
    exact ⟨found, after, by simp [canOutlive, hseen, hsame, hescapes, hrun], hafter,
      fun hfound => ⟨hvisited hfound, by simp [hescapesIff, hescapes]⟩⟩

/-- Going outwards finds only what runs later. -/
theorem exists_anyEnclosing (hclosed : arena.Closed) (owner : DeclId) (steps : Nat)
    (hsound : search.Sound arena) {current : DeclId} (hcurrent : current.number < arena.size) :
    ∃ found after, anyEnclosing owner steps search current = .ok (found, after) ∧
      Advances arena (arena.OutlivesByCalls owner current) search found after := by
  induction steps generalizing search current with
  | zero => exact ⟨false, search, rfl, hsound.advances⟩
  | succ steps ih =>
    simp only [anyEnclosing]
    split
    · exact ⟨false, search, rfl, hsound.advances⟩
    · next hne =>
      obtain ⟨found, middle, hrun, hmiddle, -⟩ :=
        exists_canOutlive hclosed hsound owner hcurrent
      obtain ⟨declaration, hget⟩ := exists_get hcurrent
      obtain ⟨seen, hseen, -, hsame, -⟩ := hmiddle.sound.marks.exists_seen hget
      cases found with
      | true =>
        exact ⟨true, middle, by simp [hrun], hmiddle.sound, hmiddle.visited_suffix,
          fun hfound => (hmiddle.right hfound).outlivesByCalls hne, nofun⟩
      | false =>
        cases houter : declaration.localTo? with
        | none =>
          exact ⟨false, middle, by simp [hrun, hseen, hsame, houter], hmiddle.sound,
            hmiddle.visited_suffix, nofun, hmiddle.clears⟩
        | some outer =>
          obtain ⟨later, after, hrest, hafter⟩ :=
            ih hmiddle.sound (hclosed.lt_of_localTo? hget houter)
          exact ⟨later, after, by simp [hrun, hseen, hsame, houter, hrest], hafter.sound,
            hmiddle.visited_suffix.trans hafter.visited_suffix,
            fun hfound => (hafter.right hfound).of_localTo ((localTo_iff hget).mpr houter) hne,
            fun hfound => (hmiddle.clears rfl).trans (hafter.clears hfound)
              hafter.visited_suffix.subset⟩

/-- The way outwards up to `current`, on which no function runs later. -/
structure Passed (arena : Arena) (owner : DeclId) (passed : List DeclId) (current : DeclId) :
    Prop where
  nodup : passed.Nodup
  lt : ∀ id ∈ passed, id.number < arena.size
  not_runsLater : ∀ id ∈ passed, ¬arena.RunsLater id
  leads : ∀ id ∈ passed, ∀ outer, arena.NestedIn owner id outer → outer ∈ passed ∨ outer = current

variable {passed : List DeclId} {current : DeclId}

/-- A way that comes back to where it was has met all the functions around. -/
theorem Passed.mem_of_path (hpassed : Passed arena owner passed current) (hmem : current ∈ passed)
    {outer : DeclId} (hpath : ReflTransGen (arena.NestedIn owner) current outer) :
    outer ∈ passed := by
  induction hpath with
  | refl => exact hmem
  | tail _ hnested ih => exact (hpassed.leads _ ih _ hnested).elim id fun hsame => hsame ▸ hmem

theorem Passed.step (hpassed : Passed arena owner passed current) (hnew : current ∉ passed)
    (hcurrent : current.number < arena.size) (hlater : ¬arena.RunsLater current) {outer : DeclId}
    (hnested : arena.NestedIn owner current outer) :
    Passed arena owner (current :: passed) outer := by
  refine ⟨List.nodup_cons.mpr ⟨hnew, hpassed.nodup⟩,
    List.forall_mem_cons.mpr ⟨hcurrent, hpassed.lt⟩,
    List.forall_mem_cons.mpr ⟨hlater, hpassed.not_runsLater⟩,
    List.forall_mem_cons.mpr ⟨fun other hother => .inr ?_, fun id hid other hother => .inl ?_⟩⟩
  · obtain ⟨⟨declaration, hget, hlocal⟩, -⟩ := hnested
    rw [NestedIn, localTo_iff hget, hlocal, Option.some.injEq] at hother
    exact hother.1.symm
  · obtain hold | rfl := hpassed.leads id hid other hother
    · exact List.mem_cons_of_mem current hold
    · exact List.mem_cons_self

/-- Going outwards misses nothing that runs later when there are more steps than functions that were
not passed. -/
theorem Passed.not_outlivesByCalls (hclosed : arena.Closed) {steps : Nat}
    (hpassed : Passed arena owner passed current) (hcurrent : current.number < arena.size)
    (hsteps : arena.size < passed.length + steps) (hsound : search.Sound arena)
    (hclears : Clears arena [] search.visited) {after : EscapeSearch}
    (hrun : anyEnclosing owner steps search current = .ok (false, after)) :
    ¬arena.OutlivesByCalls owner current := by
  induction steps generalizing search passed current with
  | zero =>
    have := DeclId.length_le_of_nodup hpassed.nodup hpassed.lt
    omega
  | succ steps ih =>
    rintro ⟨hne, last, hpath, hlast⟩
    obtain ⟨found, middle, hcan, hmiddle, hvisited⟩ :=
      exists_canOutlive hclosed hsound owner hcurrent
    simp only [anyEnclosing, hne, if_false, hcan, ok_bind] at hrun
    cases found with
    | true => simp at hrun
    | false =>
      have hclearsMiddle : Clears arena [] middle.visited :=
        hclears.trans (hmiddle.clears rfl) hmiddle.visited_suffix.subset
      have hlater : ¬arena.RunsLater current :=
        hclearsMiddle.not_runsLater (hvisited rfl).1 (hvisited rfl).2
      -- Malformed nesting may lead in a circle.  Then everything around was passed already.
      by_cases hnew : current ∈ passed
      · exact hpassed.not_runsLater last (hpassed.mem_of_path hnew hpath) hlast
      · obtain rfl | ⟨outer, hnested, hrest⟩ := hpath.cases_head
        · exact hlater hlast
        · obtain ⟨declaration, hget, houter⟩ := hnested.1
          obtain ⟨seen, hseen, -, hsame, -⟩ := hmiddle.sound.marks.exists_seen hget
          simp only [hseen, hsame, houter, ok_bind, Bool.false_eq_true, if_false] at hrun
          exact ih (hpassed.step hnew hcurrent hlater hnested)
            (hclosed.lt_of_localTo? hget houter) (by simp only [List.length_cons]; omega)
            hmiddle.sound hclearsMiddle hrun ⟨hnested.2, last, hrest, hlast⟩

/-- The search says whether one of the functions that refer to a frame outlives it by calls. -/
theorem exists_anyReferrer (hclosed : arena.Closed) (owner : DeclId) (hsound : search.Sound arena)
    (hclears : Clears arena [] search.visited) {referrers : List DeclId}
    (hreferrers : ∀ referrer ∈ referrers, referrer.number < arena.size) :
    ∃ found after, anyReferrer owner search referrers = .ok (found, after) ∧
      Marks arena after.arena ∧
      (found = true ↔ ∃ referrer ∈ referrers, arena.OutlivesByCalls owner referrer) := by
  induction referrers generalizing search with
  | nil => exact ⟨false, search, rfl, hsound.marks, by simp⟩
  | cons referrer referrers ih =>
    obtain ⟨hreferrer, hreferrers⟩ := List.forall_mem_cons.mp hreferrers
    obtain ⟨found, middle, hrun, hmiddle⟩ :=
      exists_anyEnclosing hclosed owner (search.arena.size + 1) hsound hreferrer
    cases found with
    | true =>
      exact ⟨true, middle, by simp [anyReferrer, hrun], hmiddle.sound.marks,
        by simp [hmiddle.right rfl]⟩
    | false =>
      have hstart : Passed arena owner [] referrer := ⟨List.nodup_nil, nofun, nofun, nofun⟩
      have hnot : ¬arena.OutlivesByCalls owner referrer :=
        hstart.not_outlivesByCalls hclosed hreferrer
          (by simp only [List.length_nil, hsound.marks.size_eq]; omega) hsound hclears hrun
      obtain ⟨needed, after, hrest, hmarks, hneeded⟩ := ih hmiddle.sound
        (hclears.trans (hmiddle.clears rfl) hmiddle.visited_suffix.subset) hreferrers
      exact ⟨needed, after, by simp [anyReferrer, hrun, hrest], hmarks, by simp [hneeded, hnot]⟩

end EscapeSearch

namespace Arena

variable {arena : Arena} {owner : DeclId}

/-- The functions that refer to a frame of a closed arena can be listed. -/
theorem exists_referrers (hclosed : arena.Closed) {state : Func}
    (hfunc : arena.asFunc? owner = .ok (some state)) :
    ∃ referrers, arena.referrers state.captured = .ok referrers ∧
      ∀ referrer, referrer ∈ referrers ↔ arena.RefersToFrame owner referrer := by
  obtain ⟨states, hstates, hmem⟩ : ∃ states, state.captured.mapM arena.asVariable? = .ok states ∧
      ∀ found, found ∈ states ↔ ∃ id ∈ state.captured, arena.asVariable? id = .ok found := by
    apply exists_mapM
    intro id hid
    obtain ⟨declaration, hget, hstate⟩ := bind_eq_ok_iff.mp hfunc
    rw [pure_eq_ok, Except.ok.injEq] at hstate
    have hmem : id ∈ declaration.handles := by
      simp [Declaration.handles, Declaration.entity_of_asFunc? hstate, Entity.handles,
        Func.handles, hid]
    obtain ⟨captured, hcaptured⟩ := exists_get (hclosed.lt_of_mem_handles hget hmem)
    exact ⟨captured.asVariable?, by simp [asVariable?, hcaptured]⟩
  refine ⟨(states.filterMap id).flatMap Variable.nestedReferences, by simp [referrers, hstates],
    fun referrer => ?_⟩
  simp only [List.mem_flatMap, List.mem_filterMap, id, hmem, RefersToFrame, hfunc,
    Except.ok.injEq, Option.some.injEq]
  constructor
  · rintro ⟨referred, ⟨-, ⟨id, hid, hvariable⟩, rfl⟩, hreferrer⟩
    exact ⟨state, id, referred, rfl, hid, hvariable, hreferrer⟩
  · rintro ⟨_, id, referred, rfl, hid, hvariable, hreferrer⟩
    exact ⟨referred, ⟨some referred, ⟨id, hid, hvariable⟩, rfl⟩, hreferrer⟩

/-- Whether a function needs a closure can always be said, and only marks change.  It needs one when
a function that refers to its frame outlives it by calls. -/
theorem exists_needsClosure (hclosed : arena.Closed) (howner : owner.number < arena.size) :
    ∃ needed after, arena.needsClosure owner = .ok (needed, after) ∧ Marks arena after ∧
      (needed = true ↔
        ∃ referrer, arena.RefersToFrame owner referrer ∧ arena.OutlivesByCalls owner referrer) := by
  obtain ⟨declaration, hget⟩ := exists_get howner
  have hread : arena.asFunc? owner = .ok declaration.asFunc? := by simp [asFunc?, hget]
  cases hfunc : declaration.asFunc? with
  | none =>
    rw [hfunc] at hread
    exact ⟨false, arena, by simp [needsClosure, hread], .refl, by simp [RefersToFrame, hread]⟩
  | some state =>
    rw [hfunc] at hread
    obtain ⟨referrers, hreferrers, hmem⟩ := exists_referrers hclosed hread
    have hsound : EscapeSearch.Sound arena { arena } :=
      ⟨.refl, List.nodup_nil, List.forall_mem_nil _⟩
    obtain ⟨needed, search, hrun, hsearch, hneeded⟩ :=
      EscapeSearch.exists_anyReferrer hclosed owner hsound .refl
        (fun referrer hreferrer => hclosed.lt_of_refersToFrame ((hmem referrer).mp hreferrer))
    obtain ⟨after, hmark, hmarks⟩ := exists_mark
      (fun state => rfl : ∀ state : Func,
        { state with requiresClosure := state.requiresClosure || needed }.unmarked = _)
      (by rwa [hsearch.size_eq] : owner.number < search.arena.size)
    exact ⟨needed, after, by simp [needsClosure, hread, hreferrers, hrun, hmark],
      hsearch.trans hmarks, by simp only [hneeded, hmem]⟩

end Arena

end Declarations
