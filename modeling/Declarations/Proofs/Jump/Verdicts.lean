import Declarations.Proofs.Jump.Check
import Declarations.Proofs.Jump.Schedule

/-!
# Every jump is checked once

The errors of a step do not tell which jumps the step has checked, because the check of most jumps
finds no error.  So each step is taken a second time, in a way that writes down every check with its
answer.  The errors of the first way are those in the answers of the second, and what is written
down goes by the order of the steps alone: no jump is lost, none is checked twice, and each answer
is the one that the first arena gives.
-/

namespace Declarations

/-- What the check of jumps reads from a declaration. -/
def Declaration.jumpView (declaration : Declaration) : Bool × Option DeclId :=
  (declaration.canBeSkipped, declaration.previous?)

theorem Declaration.jumpView_mapFunc {declaration : Declaration} {change : Func → Func} :
    (declaration.mapFunc change).jumpView = declaration.jumpView := by
  have hprofile : (declaration.mapFunc change).jumpProfile = declaration.jumpProfile :=
    jumpProfile_mapFunc
  have hskipped : (declaration.mapFunc change).canBeSkipped = declaration.canBeSkipped :=
    (Prod.mk.inj hprofile).1
  rw [jumpView, jumpView, hskipped, previous?_mapFunc]

structure JumpVerdict where
  jump : PendingJump
  answer : Except DeclError Unit

def JumpVerdict.error? (verdict : JumpVerdict) : Option DeclError :=
  match verdict.answer with
  | .ok () => none
  | .error cause => some cause

namespace Arena

def takeStep (function : DeclId) (arena : Arena) : JumpStep → Except Fault (List DeclError × Arena)
  | .jumpTo jump => do
      let (answer, arena) ← arena.jumpTo function jump
      return (errorsOf answer, arena)
  | .declareLabel name span cursor => do
      let (_, arena) ← arena.declareLabel function name span cursor
      return ([], arena)
  | .resolveJumps => arena.resolveJumps function

def judge? (arena : Arena) (state : Func) (jump : PendingJump) :
    Except Fault (Option JumpVerdict) :=
  match state.findLabel? jump.label with
  | none => .ok none
  | some place => do
      return some ⟨jump, ← arena.checkJump jump.lastVariable place.lastVariable jump.span⟩

def judgeStep (function : DeclId) (arena : Arena) :
    JumpStep → Except Fault (List JumpVerdict × Arena)
  | .jumpTo jump => do
      match ← arena.asFunc? function with
      | none => return ([], arena)
      | some state =>
          match ← arena.judge? state jump with
          | some verdict => return ([verdict], arena)
          | none =>
              let arena ← arena.modifyFunc function fun state =>
                { state with pendingJumps := state.pendingJumps ++ [jump] }
              return ([], arena)
  | .declareLabel name span cursor => do
      let (_, arena) ← arena.declareLabel function name span cursor
      return ([], arena)
  | .resolveJumps => do
      match ← arena.asFunc? function with
      | none => return ([], arena)
      | some state =>
          let found ← state.pendingJumps.mapM (arena.judge? state)
          let arena ← arena.modifyFunc function fun state =>
            { state with
              pendingJumps := state.pendingJumps.filter fun jump =>
                (state.findLabel? jump.label).isNone }
          return (found.filterMap id, arena)

def takeSteps {α : Type} (take : Arena → JumpStep → Except Fault (α × Arena)) (arena : Arena) :
    List JumpStep → Except Fault (List α × Arena)
  | [] => return ([], arena)
  | step :: steps => do
      let (report, arena) ← take arena step
      let (reports, arena) ← arena.takeSteps take steps
      return (report :: reports, arena)

/-- The jump was checked as the arena would check it, at the place that its label has in the
steps. -/
def Judges (arena : Arena) (steps : List JumpStep) (verdict : JumpVerdict) : Prop :=
  ∃ place, JumpStep.placeIn? steps verdict.jump.label = some place ∧
    arena.checkJump verdict.jump.lastVariable place.lastVariable verdict.jump.span =
      .ok verdict.answer

variable {arena before after start : Arena} {function : DeclId} {state : Func}
  {earlier steps : List JumpStep} {step : JumpStep} {jump : PendingJump} {jumps : List PendingJump}
  {verdicts : List JumpVerdict} {journal : List (List JumpVerdict)}

/-! ## Errors and answers -/

/-- The errors of some waiting jumps are those in the answers of the ones that are checked. -/
theorem checkJumps_eq_map : arena.checkJumps state jumps =
    (jumps.mapM (arena.judge? state)).map fun found =>
      (found.filterMap id).filterMap JumpVerdict.error? := by
  calc
    arena.checkJumps state jumps =
        (jumps.mapM fun jump =>
          (arena.judge? state jump).map (Option.bind · JumpVerdict.error?)) >>=
            fun found => .ok (found.filterMap id) := by
      unfold checkJumps
      congr 2
      funext jump
      rw [judge?]
      cases state.findLabel? jump.label with
      | none => rfl
      | some place =>
        dsimp only
        cases arena.checkJump jump.lastVariable place.lastVariable jump.span with
        | error fault => rfl
        | ok answer => cases answer <;> rfl
    _ = (jumps.mapM (arena.judge? state)).map fun found =>
          (found.filterMap id).filterMap JumpVerdict.error? := by
      rw [mapM_change]
      cases jumps.mapM (arena.judge? state) with
      | error fault => rfl
      | ok found => simp [List.filterMap_map, List.filterMap_filterMap]

/-- The errors of a step are those in the answers that are written down. -/
theorem takeStep_eq_map : arena.takeStep function step =
    (arena.judgeStep function step).map
      (Prod.map (List.filterMap JumpVerdict.error?) id) := by
  cases step with
  | jumpTo jump =>
    rw [takeStep, judgeStep, jumpTo]
    cases arena.asFunc? function with
    | error fault => rfl
    | ok state? =>
      cases state? with
      | none => rfl
      | some state =>
        simp only [ok_bind, judge?]
        cases state.findLabel? jump.label with
        | none => cases arena.modifyFunc function _ <;> rfl
        | some place =>
          dsimp only
          cases arena.checkJump jump.lastVariable place.lastVariable jump.span with
          | error fault => rfl
          | ok answer => cases answer <;> rfl
  | declareLabel name span cursor =>
    rw [takeStep, judgeStep]
    cases arena.declareLabel function name span cursor <;> rfl
  | resolveJumps =>
    rw [takeStep, judgeStep, resolveJumps]
    cases arena.asFunc? function with
    | error fault => rfl
    | ok state? =>
      cases state? with
      | none => rfl
      | some state =>
        simp only [ok_bind, checkJumps_eq_map]
        cases state.pendingJumps.mapM (arena.judge? state) with
        | error fault => rfl
        | ok found => cases arena.modifyFunc function _ <;> rfl

/-- The errors of a run are those in the answers that are written down. -/
theorem takeSteps_takeStep : arena.takeSteps (takeStep function) steps =
    (arena.takeSteps (judgeStep function) steps).map
      (Prod.map (List.map (List.filterMap JumpVerdict.error?)) id) := by
  induction steps generalizing arena with
  | nil => rfl
  | cons step steps ih =>
    rw [takeSteps, takeSteps, takeStep_eq_map, map_bind]
    cases arena.judgeStep function step with
    | error fault => rfl
    | ok taken =>
      obtain ⟨verdicts, arena⟩ := taken
      simp only [ok_bind, Prod.map_apply, id_eq, ih, map_bind]
      cases arena.takeSteps (judgeStep function) steps <;> rfl

theorem takeSteps_concat {α : Type} {take : Arena → JumpStep → Except Fault (α × Arena)}
    {middle : Arena} {reports : List α} {report : α}
    (hearlier : arena.takeSteps take earlier = .ok (reports, middle))
    (hstep : take middle step = .ok (report, after)) :
    arena.takeSteps take (earlier ++ [step]) = .ok (reports ++ [report], after) := by
  induction earlier generalizing arena reports with
  | nil =>
    cases hearlier
    simp [takeSteps, hstep]
  | cons first earlier ih =>
    simp only [takeSteps, bind_eq_ok_iff] at hearlier
    obtain ⟨⟨firstReport, next⟩, hfirst, ⟨others, last⟩, hothers, hreports⟩ := hearlier
    cases hreports
    rw [List.cons_append, takeSteps, hfirst, ok_bind]
    simp only [ih hothers, ok_bind]
    rfl

/-! ## Checks in a later arena -/

/-- A chain is the same in arenas that the check of jumps reads alike. -/
theorem scopeChain_congr (halike : LookAlike Declaration.jumpView before after) (bound : Nat)
    (passed : List DeclId) (last : Option DeclId) :
    after.scopeChain bound passed last = before.scopeChain bound passed last := by
  induction bound generalizing passed last with
  | zero => rfl
  | succ bound ih =>
    cases last with
    | none => rfl
    | some last =>
      have hview := halike last
      rw [scopeChain, scopeChain]
      cases hafter : after.get last <;> cases hbefore : before.get last <;>
        simp_all [Declaration.jumpView]

theorem firstNeeded?_congr (halike : LookAlike Declaration.jumpView before after)
    (visible : List DeclId) (bound : Nat) (passed : List DeclId) (last : Option DeclId) :
    after.firstNeeded? visible bound passed last =
      before.firstNeeded? visible bound passed last := by
  induction bound generalizing passed last with
  | zero => rfl
  | succ bound ih =>
    cases last with
    | none => rfl
    | some last =>
      have hview := halike last
      rw [firstNeeded?, firstNeeded?]
      cases hafter : after.get last <;> cases hbefore : before.get last <;>
        simp_all [Declaration.jumpView]

theorem checkJump_congr (halike : LookAlike Declaration.jumpView before after)
    (source target : Option DeclId) (span : Span) :
    after.checkJump source target span = before.checkJump source target span := by
  simp only [checkJump, halike.size_eq, scopeChain_congr halike, firstNeeded?_congr halike]

/-! ## One check -/

theorem Judges.concat {verdict : JumpVerdict} (hjudges : start.Judges earlier verdict) :
    start.Judges (earlier ++ [step]) verdict := by
  obtain ⟨place, hplace, hcheck⟩ := hjudges
  exact ⟨place, JumpStep.placeIn?_concat_of_eq_some hplace, hcheck⟩

/-- What is known about the labels of a function after some steps, in an arena in which jumps are
checked as in the first one. -/
structure KnowsLabels (start : Arena) (steps : List JumpStep) (arena : Arena) (state : Func) :
    Prop where
  alike : LookAlike Declaration.jumpView start arena
  find_eq : ∀ name, state.findLabel? name = JumpStep.placeIn? steps name

theorem KnowsLabels.change {change : Func → Func} (hknows : KnowsLabels start steps arena state)
    (hmodify : arena.modifyFunc function change = .ok after)
    (hfind : ∀ name, (change state).findLabel? name = JumpStep.placeIn? (steps ++ [step]) name) :
    KnowsLabels start (steps ++ [step]) after (change state) where
  alike := hknows.alike.trans
    (map_get_of_change (get_of_modifyFunc hmodify) fun _ => Declaration.jumpView_mapFunc)
  find_eq := hfind

/-- The check of a jump gives a verdict exactly if the label is declared. -/
theorem KnowsLabels.exists_judge? (hknows : KnowsLabels start steps arena state)
    (hclosed : start.Closed)
    (hsteps : ∀ step ∈ steps, ∀ id ∈ step.last?, id.number < start.size)
    (hjump : ∀ id ∈ jump.lastVariable, id.number < start.size) :
    (JumpStep.declares steps jump.label = false ∧ arena.judge? state jump = .ok none) ∨
      (JumpStep.declares steps jump.label = true ∧
        ∃ answer, arena.judge? state jump = .ok (some ⟨jump, answer⟩) ∧
          start.Judges steps ⟨jump, answer⟩) := by
  rw [judge?, hknows.find_eq, JumpStep.declares]
  cases hplace : JumpStep.placeIn? steps jump.label with
  | none => exact .inl ⟨rfl, rfl⟩
  | some place =>
    obtain ⟨cursor, hlabel, hlast⟩ := JumpStep.exists_label_of_placeIn? hplace
    have htarget : ∀ id ∈ place.lastVariable, id.number < start.size := by
      rw [hlast]
      exact hsteps _ hlabel
    obtain ⟨answer, hcheck⟩ := hclosed.exists_checkJump hjump htarget jump.span
    refine .inr ⟨rfl, answer, ?_, place, hplace, hcheck⟩
    simp [checkJump_congr hknows.alike, hcheck]

/-- The checks of some jumps give verdicts for those whose labels are declared. -/
theorem KnowsLabels.exists_mapM_judge? (hknows : KnowsLabels start steps arena state)
    (hclosed : start.Closed)
    (hsteps : ∀ step ∈ steps, ∀ id ∈ step.last?, id.number < start.size)
    (hjumps : ∀ jump ∈ jumps, ∀ id ∈ jump.lastVariable, id.number < start.size) :
    ∃ found, jumps.mapM (arena.judge? state) = .ok found ∧
      (found.filterMap id).map JumpVerdict.jump =
        jumps.filter (fun jump => JumpStep.declares steps jump.label) ∧
      ∀ verdict ∈ found.filterMap id, start.Judges steps verdict := by
  induction jumps with
  | nil => exact ⟨[], rfl, rfl, List.forall_mem_nil _⟩
  | cons jump jumps ih =>
    obtain ⟨hjump, hothers⟩ := List.forall_mem_cons.mp hjumps
    obtain ⟨found, hfound, hlisted, hjudges⟩ := ih hothers
    rw [List.mapM_cons, hfound]
    obtain ⟨hdeclared, hjudge⟩ | ⟨hdeclared, answer, hjudge, hcorrect⟩ :=
      hknows.exists_judge? hclosed hsteps hjump
    · refine ⟨none :: found, by rw [hjudge]; rfl, ?_, ?_⟩
      · simpa [hdeclared] using hlisted
      · simpa using hjudges
    · refine ⟨some ⟨jump, answer⟩ :: found, by rw [hjudge]; rfl, ?_, ?_⟩
      · simpa [hdeclared] using hlisted
      · exact List.forall_mem_cons.mpr ⟨hcorrect, hjudges⟩

/-! ## A run -/

/-- How a run stands after some steps: each step has checked the jumps that it should, in their
order, and the others wait. -/
structure Judged (start : Arena) (function : DeclId) (steps : List JumpStep)
    (journal : List (List JumpVerdict)) (arena : Arena) : Prop where
  jumps_eq : journal.map (List.map JumpVerdict.jump) =
    (List.range steps.length).map fun number => JumpStep.jumpsFor steps (some number)
  judges : ∀ verdicts ∈ journal, ∀ verdict ∈ verdicts, start.Judges steps verdict
  exists_state : ∃ state, arena.asFunc? function = .ok (some state) ∧
    KnowsLabels start steps arena state ∧ state.pendingJumps = JumpStep.jumpsFor steps none

namespace Judged

theorem empty (hstate : start.asFunc? function = .ok (some state)) (hlabels : state.labels = .empty)
    (hpending : state.pendingJumps = []) : Judged start function [] [] start where
  jumps_eq := rfl
  judges := List.forall_mem_nil _
  exists_state := ⟨state, hstate, ⟨.refl start, fun name => by
    rw [Func.findLabel?, hlabels]; rfl⟩, hpending⟩

/-- One more step, with the verdicts of the jumps that it should check. -/
theorem concat (hjudged : Judged start function earlier journal arena)
    (hjumps : verdicts.map JumpVerdict.jump =
      JumpStep.jumpsFor (earlier ++ [step]) (some earlier.length))
    (hverdicts : ∀ verdict ∈ verdicts, start.Judges earlier verdict)
    (hstate : after.asFunc? function = .ok (some state))
    (hknows : KnowsLabels start (earlier ++ [step]) after state)
    (hpending : state.pendingJumps = JumpStep.jumpsFor (earlier ++ [step]) none) :
    Judged start function (earlier ++ [step]) (journal ++ [verdicts]) after where
  jumps_eq := by
    have hearlier : ((List.range earlier.length).map fun number =>
        JumpStep.jumpsFor (earlier ++ [step]) (some number)) =
          (List.range earlier.length).map fun number => JumpStep.jumpsFor earlier (some number) :=
      List.map_congr_left fun number hnumber =>
        JumpStep.jumpsFor_concat_of_lt (List.mem_range.mp hnumber)
    rw [List.map_append, hjudged.jumps_eq, List.length_append, List.length_singleton,
      List.range_succ, List.map_append, hearlier, List.map_singleton, hjumps, List.map_singleton]
  judges := by
    have hall : ∀ listed ∈ journal ++ [verdicts], ∀ verdict ∈ listed,
        start.Judges earlier verdict :=
      List.forall_mem_append.mpr ⟨hjudged.judges, by simpa using hverdicts⟩
    exact fun listed hlisted verdict hverdict => (hall listed hlisted verdict hverdict).concat
  exists_state := ⟨state, hstate, hknows, hpending⟩

/-- A jump is checked at once if its label is declared, and waits otherwise. -/
theorem jumpTo (hjudged : Judged start function earlier journal arena) (hclosed : start.Closed)
    (hsteps : ∀ step ∈ earlier, ∀ id ∈ step.last?, id.number < start.size)
    (hjump : ∀ id ∈ jump.lastVariable, id.number < start.size) :
    ∃ verdicts after, arena.judgeStep function (.jumpTo jump) = .ok (verdicts, after) ∧
      Judged start function (earlier ++ [.jumpTo jump]) (journal ++ [verdicts]) after := by
  obtain ⟨state, hstate, hknows, hpending⟩ := hjudged.exists_state
  have hfind : ∀ name, state.findLabel? name =
      JumpStep.placeIn? (earlier ++ [.jumpTo jump]) name := fun name => by
    rw [hknows.find_eq, JumpStep.placeIn?_concat_of_label?_eq_none rfl]
  simp only [judgeStep, hstate, ok_bind]
  obtain ⟨hdeclared, hjudge⟩ | ⟨hdeclared, answer, hjudge, hcorrect⟩ :=
    hknows.exists_judge? hclosed hsteps hjump
  · obtain ⟨after, hmodify⟩ := exists_modifyFunc_of_asFunc? hstate fun state =>
      { state with pendingJumps := state.pendingJumps ++ [jump] }
    refine ⟨[], after, by simp [hjudge, hmodify], hjudged.concat ?_ (List.forall_mem_nil _)
      (asFunc?_self_of_modifyFunc hmodify hstate) (hknows.change hmodify hfind) ?_⟩
    · simp [JumpStep.jumpsFor_concat_self, JumpStep.isResolve, JumpStep.jump?, Option.filter_some,
        hdeclared]
    · simp [JumpStep.jumpsFor_concat_none, JumpStep.isResolve, JumpStep.jump?, Option.filter_some,
        hdeclared, hpending]
  · refine ⟨[⟨jump, answer⟩], arena, by simp [hjudge], hjudged.concat ?_ (by simpa using hcorrect)
      hstate ⟨hknows.alike, hfind⟩ ?_⟩
    · simp [JumpStep.jumpsFor_concat_self, JumpStep.isResolve, JumpStep.jump?, Option.filter_some,
        hdeclared]
    · simp [JumpStep.jumpsFor_concat_none, JumpStep.isResolve, JumpStep.jump?, Option.filter_some,
        hdeclared, hpending]

/-- A label of a new name is declared, and no jump is checked. -/
theorem declareLabel (hjudged : Judged start function earlier journal arena) {name : Name}
    {span : Span} {cursor : ScopeCursor} (hnew : name ∉ earlier.filterMap JumpStep.label?) :
    ∃ verdicts after,
      arena.judgeStep function (.declareLabel name span cursor) = .ok (verdicts, after) ∧
      Judged start function (earlier ++ [.declareLabel name span cursor]) (journal ++ [verdicts])
        after := by
  obtain ⟨state, hstate, hknows, hpending⟩ := hjudged.exists_state
  have hfind : ∀ other, (state.declareLabel name ⟨span, cursor.last⟩).findLabel? other =
      JumpStep.placeIn? (earlier ++ [.declareLabel name span cursor]) other := by
    intro other
    rw [Func.findLabel?, Func.declareLabel, NameTable.find?_insert, ← Func.findLabel?,
      hknows.find_eq, JumpStep.placeIn?_concat, JumpStep.place?]
    by_cases hname : other = name
    · subst other
      simp [JumpStep.placeIn?_eq_none hnew]
    · simp [hname, Ne.symm hname]
  obtain ⟨after, hmodify⟩ := exists_modifyFunc_of_asFunc? hstate fun state =>
    state.declareLabel name ⟨span, cursor.last⟩
  refine ⟨[], after, by simp [judgeStep, Arena.declareLabel, findLabel?, hstate, hmodify],
    hjudged.concat ?_ (List.forall_mem_nil _) (asFunc?_self_of_modifyFunc hmodify hstate)
      (hknows.change hmodify hfind) ?_⟩
  · simp [JumpStep.jumpsFor_concat_self, JumpStep.isResolve, JumpStep.jump?]
  · simp [JumpStep.jumpsFor_concat_none, JumpStep.isResolve, JumpStep.jump?, ← hpending,
      Func.declareLabel]

/-- The waiting jumps whose labels are declared are checked, and the others go on waiting. -/
theorem resolveJumps (hjudged : Judged start function earlier journal arena)
    (hclosed : start.Closed)
    (hsteps : ∀ step ∈ earlier, ∀ id ∈ step.last?, id.number < start.size) :
    ∃ verdicts after, arena.judgeStep function .resolveJumps = .ok (verdicts, after) ∧
      Judged start function (earlier ++ [.resolveJumps]) (journal ++ [verdicts]) after := by
  obtain ⟨state, hstate, hknows, hpending⟩ := hjudged.exists_state
  have hfind : ∀ name, state.findLabel? name =
      JumpStep.placeIn? (earlier ++ [.resolveJumps]) name := fun name => by
    rw [hknows.find_eq, JumpStep.placeIn?_concat_of_label?_eq_none rfl]
  have hjumps : ∀ jump ∈ state.pendingJumps, ∀ id ∈ jump.lastVariable, id.number < start.size := by
    rw [hpending]
    exact fun jump hjump => hsteps _ (JumpStep.mem_of_mem_jumpsFor hjump)
  obtain ⟨found, hfound, hlisted, hjudges⟩ := hknows.exists_mapM_judge? hclosed hsteps hjumps
  obtain ⟨after, hmodify⟩ := exists_modifyFunc_of_asFunc? hstate fun state =>
    { state with
      pendingJumps := state.pendingJumps.filter fun jump => (state.findLabel? jump.label).isNone }
  refine ⟨found.filterMap id, after, by simp [judgeStep, hstate, hfound, hmodify],
    hjudged.concat ?_ hjudges (asFunc?_self_of_modifyFunc hmodify hstate)
      (hknows.change hmodify hfind) ?_⟩
  · rw [hlisted, hpending]
    simp [JumpStep.jumpsFor_concat_self, JumpStep.isResolve, JumpStep.jump?]
  · simp [JumpStep.jumpsFor_concat_none, JumpStep.isResolve, JumpStep.jump?, hpending,
      hknows.find_eq, JumpStep.declares]

/-- A whole run, from a function without labels and waiting jumps. -/
theorem exists_judgeSteps (hclosed : start.Closed)
    (hstate : start.asFunc? function = .ok (some state)) (hlabels : state.labels = .empty)
    (hpending : state.pendingJumps = [])
    (hsteps : ∀ step ∈ steps, ∀ id ∈ step.last?, id.number < start.size)
    (hnames : (steps.filterMap JumpStep.label?).Nodup) :
    ∃ journal after, start.takeSteps (judgeStep function) steps = .ok (journal, after) ∧
      Judged start function steps journal after := by
  -- What a step checks depends on the steps before it, so the run is taken apart at its end.
  induction steps using List.reverseRecOn with
  | nil => exact ⟨[], start, rfl, empty hstate hlabels hpending⟩
  | append_singleton earlier step ih =>
    obtain ⟨hearlier, hlast⟩ := List.forall_mem_append.mp hsteps
    rw [List.filterMap_append, List.nodup_append] at hnames
    obtain ⟨hearlierNames, -, hnew⟩ := hnames
    obtain ⟨journal, middle, hrun, hjudged⟩ := ih hearlier hearlierNames
    have hstep : ∃ verdicts after, middle.judgeStep function step = .ok (verdicts, after) ∧
        Judged start function (earlier ++ [step]) (journal ++ [verdicts]) after := by
      cases step with
      | jumpTo jump => exact hjudged.jumpTo hclosed hearlier (hlast _ List.mem_cons_self)
      | declareLabel name span cursor =>
        exact hjudged.declareLabel fun hmem => hnew name hmem name (by simp [JumpStep.label?]) rfl
      | resolveJumps => exact hjudged.resolveJumps hclosed hearlier
    obtain ⟨verdicts, after, htake, hnext⟩ := hstep
    exact ⟨journal ++ [verdicts], after, takeSteps_concat hrun htake, hnext⟩

/-- Each jump of the run is checked by one step or waits. -/
theorem perm_jumps (hjudged : Judged start function steps journal arena) :
    (journal.flatten.map JumpVerdict.jump ++ JumpStep.jumpsFor steps none).Perm
      (steps.filterMap JumpStep.jump?) := by
  rw [List.map_flatten, hjudged.jumps_eq, ← List.flatMap_def]
  exact JumpStep.perm_jumpsFor

end Judged

/-! ## Resolving twice -/

/-- Jumps whose labels are not declared are not checked. -/
theorem checkJumps_of_unknown (hunknown : ∀ jump ∈ jumps, state.findLabel? jump.label = none) :
    arena.checkJumps state jumps = .ok [] := by
  have hnone : jumps.mapM (arena.judge? state) = .ok (jumps.map fun _ => none) :=
    mapM_eq_ok_map _ fun jump hjump => by rw [judge?, hunknown jump hjump]
  rw [checkJumps_eq_map, hnone, ok_map]
  simp [List.filterMap_map]

/-- A second resolving step right after the first one finds nothing and changes nothing. -/
theorem resolveJumps_again {errors : List DeclError}
    (hresolve : arena.resolveJumps function = .ok (errors, after)) :
    after.resolveJumps function = .ok ([], after) := by
  obtain ⟨state?, hstate, hrest⟩ := bind_eq_ok_iff.mp hresolve
  cases state? with
  | none =>
    cases hrest
    rw [resolveJumps, hstate]
    rfl
  | some state =>
    obtain ⟨_, -, hwritten⟩ := bind_eq_ok_iff.mp hrest
    obtain ⟨_, hmodify, hanswer⟩ := bind_eq_ok_iff.mp hwritten
    cases hanswer
    have hlater := asFunc?_self_of_modifyFunc hmodify hstate
    obtain ⟨again, hagain⟩ := exists_modifyFunc_of_asFunc? hlater fun state =>
      { state with
        pendingJumps := state.pendingJumps.filter fun jump => (state.findLabel? jump.label).isNone }
    have hsame : again = after := by
      refine eq_of_modifyFunc (fun current hcurrent => ?_) hagain
      obtain rfl := Option.some.inj (Except.ok.inj (hlater.symm.trans hcurrent))
      simp [Func.findLabel?]
    rw [resolveJumps, hlater, ok_bind]
    dsimp only
    rw [checkJumps_of_unknown, ok_bind, hagain, hsame]
    · rfl
    · intro jump hjump
      exact Option.isNone_iff_eq_none.mp (List.mem_filter.mp hjump).2

/-- Say that a function has no labels and no waiting jumps, and that jumps, labels of different
names and resolving steps come in any order.  The run takes place, and its errors are those in the
answers of its checks.  Each step checks just the jumps for which it is the first step that can, in
the order in which they come, and each answer is that of the check between the places of the jump
and of its label.  So every jump whose label is declared before it, or before a later resolving
step, is checked once, and the others wait in their order.  Resolving twice is as good as once. -/
theorem Closed.takeSteps_judgesOnce (hclosed : arena.Closed)
    (hstate : arena.asFunc? function = .ok (some state)) (hlabels : state.labels = .empty)
    (hpending : state.pendingJumps = [])
    (hsteps : ∀ step ∈ steps, ∀ id ∈ step.last?, id.number < arena.size)
    (hnames : (steps.filterMap JumpStep.label?).Nodup) :
    ∃ journal after final,
      arena.takeSteps (takeStep function) steps =
        .ok (journal.map (List.filterMap JumpVerdict.error?), after) ∧
      arena.takeSteps (judgeStep function) steps = .ok (journal, after) ∧
      journal.map (List.map JumpVerdict.jump) =
        (List.range steps.length).map (fun number => JumpStep.jumpsFor steps (some number)) ∧
      (∀ verdicts ∈ journal, ∀ verdict ∈ verdicts, arena.Judges steps verdict) ∧
      after.asFunc? function = .ok (some final) ∧
      final.pendingJumps = JumpStep.jumpsFor steps none ∧
      (journal.flatten.map JumpVerdict.jump ++ final.pendingJumps).Perm
        (steps.filterMap JumpStep.jump?) ∧
      (∀ jump issue, (jump, issue) ∈ JumpStep.issued steps →
        ((JumpStep.checkedBy? steps issue jump.label).isSome = true ↔
          JumpStep.IsDue steps issue jump.label)) ∧
      ∃ errors resolved, after.resolveJumps function = .ok (errors, resolved) ∧
        resolved.resolveJumps function = .ok ([], resolved) := by
  obtain ⟨journal, after, hrun, hjudged⟩ :=
    Judged.exists_judgeSteps hclosed hstate hlabels hpending hsteps hnames
  obtain ⟨final, hfinal, -, hwaiting⟩ := hjudged.exists_state
  have hreal : arena.takeSteps (takeStep function) steps =
      .ok (journal.map (List.filterMap JumpVerdict.error?), after) := by
    rw [takeSteps_takeStep, hrun]
    rfl
  obtain ⟨verdicts, resolved, hstep, -⟩ := hjudged.resolveJumps hclosed hsteps
  have hresolve : after.resolveJumps function =
      .ok (verdicts.filterMap JumpVerdict.error?, resolved) := by
    have htake : after.takeStep function .resolveJumps =
        (after.judgeStep function .resolveJumps).map
          (Prod.map (List.filterMap JumpVerdict.error?) id) := takeStep_eq_map
    rw [hstep] at htake
    exact htake
  refine ⟨journal, after, final, hreal, hrun, hjudged.jumps_eq, hjudged.judges, hfinal, hwaiting,
    ?_, ?_, _, resolved, hresolve, resolveJumps_again hresolve⟩
  · rw [hwaiting]
    exact hjudged.perm_jumps
  · exact fun jump issue hmem =>
      JumpStep.isSome_checkedBy?_iff (JumpStep.lt_of_mem_issued hmem)

/-- A jump to a label that comes later and one to no label, with the jumps resolved before and after
the label, and at last a jump back to it. -/
def forwardAndBack : List JumpStep :=
  [.jumpTo ⟨⟨1⟩, .synthetic, some ⟨1⟩⟩, .jumpTo ⟨⟨2⟩, .synthetic, none⟩, .resolveJumps,
    .declareLabel ⟨1⟩ .synthetic ⟨some ⟨3⟩⟩, .resolveJumps, .jumpTo ⟨⟨1⟩, .synthetic, some ⟨3⟩⟩]

theorem Closed.takeSteps_judgesOnce_forwardAndBack :
    circularLocals.Closed ∧ circularLocals.asFunc? ⟨0⟩ = .ok (some {}) ∧
    (∀ step ∈ forwardAndBack, ∀ id ∈ step.last?, id.number < circularLocals.size) ∧
    (forwardAndBack.filterMap JumpStep.label?).Nodup ∧
    ∃ journal after final,
      circularLocals.takeSteps (takeStep ⟨0⟩) forwardAndBack =
        .ok (journal.map (List.filterMap JumpVerdict.error?), after) ∧
      circularLocals.takeSteps (judgeStep ⟨0⟩) forwardAndBack = .ok (journal, after) ∧
      journal.map (List.map JumpVerdict.jump) =
        (List.range forwardAndBack.length).map (fun number =>
          JumpStep.jumpsFor forwardAndBack (some number)) ∧
      (∀ verdicts ∈ journal, ∀ verdict ∈ verdicts,
        circularLocals.Judges forwardAndBack verdict) ∧
      after.asFunc? ⟨0⟩ = .ok (some final) ∧
      final.pendingJumps = JumpStep.jumpsFor forwardAndBack none ∧
      (journal.flatten.map JumpVerdict.jump ++ final.pendingJumps).Perm
        (forwardAndBack.filterMap JumpStep.jump?) ∧
      (∀ jump issue, (jump, issue) ∈ JumpStep.issued forwardAndBack →
        ((JumpStep.checkedBy? forwardAndBack issue jump.label).isSome = true ↔
          JumpStep.IsDue forwardAndBack issue jump.label)) ∧
      ∃ errors resolved, after.resolveJumps ⟨0⟩ = .ok (errors, resolved) ∧
        resolved.resolveJumps ⟨0⟩ = .ok ([], resolved) := by
  have hclosed : circularLocals.Closed := by decide
  have hstate : circularLocals.asFunc? ⟨0⟩ = .ok (some {}) := rfl
  have hsteps : ∀ step ∈ forwardAndBack, ∀ id ∈ step.last?, id.number < circularLocals.size := by
    decide
  have hnames : (forwardAndBack.filterMap JumpStep.label?).Nodup := by decide
  exact ⟨hclosed, hstate, hsteps, hnames,
    hclosed.takeSteps_judgesOnce hstate rfl rfl hsteps hnames⟩

/-- The jump forward leaves out the third variable, which is found when the jumps are resolved for
the second time. -/
example : (do return (← circularLocals.takeSteps (takeStep ⟨0⟩) forwardAndBack).1) =
    .ok [[], [], [], [], [.gotoSkipsInitializer ⟨3⟩ .synthetic], []] :=
  rfl

end Arena

end Declarations
