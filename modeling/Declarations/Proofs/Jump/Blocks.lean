import Declarations.Proofs.Jump.Body

/-!
# Jumps respect blocks

A walk through a body keeps a log of its labels and jumps, and the chains in the arena stay those
that the tree of blocks makes visible.  At the end every jump to a label of the body is checked
once, either on the way or when the waiting jumps are resolved, and its error is the one that the
tree says it should have.
-/

namespace Declarations

namespace Arena

variable {arena before after start : Arena} {function id : DeclId} {body : Body}
  {state : Func} {declared visible : List DeclId} {labels jumps waiting : List Landmark}
  {jump landmark : Landmark} {walk : Walk} {cursor : ScopeCursor} {name : Name} {span : Span}

theorem errorsOf_answerOf (error : Option DeclError) :
    errorsOf (answerOf error) = error.toList := by
  cases error <;> rfl

/-- How a walk that began with the arena `start` stands when it has come past these variables,
labels and jumps. -/
structure Walked (start : Arena) (function : DeclId) (declared : List DeclId)
    (labels jumps : List Landmark) (walk : Walk) : Prop where
  profile_eq : ∀ id, (walk.arena.get id).map Declaration.jumpProfile =
    (start.get id).map Declaration.jumpProfile
  sees : ∀ landmark ∈ labels ++ jumps, Sees walk.arena declared landmark.visible
  exists_log : ∃ state, walk.arena.asFunc? function = .ok (some state) ∧
    JumpLog start labels jumps state walk.errors

namespace Walked

/-! ## What the walk finds -/

/-- The walk has changed nothing about what can be skipped. -/
theorem jumpError_eq (hwalked : Walked start function declared labels jumps walk)
    (sourceLocals targetLocals : List DeclId) (span : Span) :
    walk.arena.jumpError sourceLocals targetLocals span =
      start.jumpError sourceLocals targetLocals span := by
  have hneeds : walk.arena.needs = start.needs := by
    funext id
    have hprofile := hwalked.profile_eq id
    cases hwalk : walk.arena.get id <;> cases hstart : start.get id <;>
      simp_all [needs, Except.toOption, Declaration.jumpProfile]
  rw [jumpError, hneeds, ← jumpError]

/-- A variable of the first arena still is one. -/
theorem isVariable (hwalked : Walked start function declared labels jumps walk)
    (hvariable : start.IsVariable id) : walk.arena.IsVariable id := by
  obtain ⟨declaration, hget, hsome⟩ := hvariable
  have hprofile := hwalked.profile_eq id
  rw [hget, ok_map] at hprofile
  cases hwalk : walk.arena.get id with
  | error fault =>
    rw [hwalk, error_map] at hprofile
    contradiction
  | ok next =>
    rw [hwalk, ok_map, Except.ok.injEq, Declaration.jumpProfile, Declaration.jumpProfile,
      Prod.mk.injEq] at hprofile
    exact ⟨next, hwalk, hprofile.2.trans hsome⟩

/-- The check of a jump to a label that is declared. -/
theorem checkJump_eq (hwalked : Walked start function declared labels jumps walk)
    (jump : Landmark) (hjump : Sees walk.arena declared jump.visible)
    (hlabel : labels.find? (·.name = jump.name) = some landmark) :
    walk.arena.checkJump jump.visible.head? landmark.visible.head? jump.span =
      .ok (answerOf (start.report labels jump)) := by
  have hmem : landmark ∈ labels ++ jumps :=
    List.mem_append_left jumps (List.mem_of_find?_eq_some hlabel)
  rw [checkJump_of_scopes hjump.scope (hwalked.sees landmark hmem).scope, hwalked.jumpError_eq,
    report, hlabel, Option.bind_some]

/-! ## One statement -/

theorem declareVariable (hwalked : Walked start function declared labels jumps walk)
    (hsees : Sees walk.arena declared visible) (hcursor : cursor.last = visible.head?)
    (hvariable : start.IsVariable id) (hfresh : id ∉ declared) :
    ∃ after, walk.arena.declareVariable cursor id = .ok (⟨some id⟩, after) ∧
      Walked start function (declared ++ [id]) labels jumps { walk with arena := after } ∧
      KeepsChains declared walk.arena after ∧ Sees after (declared ++ [id]) (id :: visible) := by
  obtain ⟨after, hdeclare, hprofile, hfunc, hkeeps, hnext⟩ :=
    exists_declareVariable hsees hcursor (hwalked.isVariable hvariable) hfresh
  obtain ⟨state, hstate, hlog⟩ := hwalked.exists_log
  have hlandmarks : ∀ landmark ∈ labels ++ jumps, Sees after (declared ++ [id]) landmark.visible :=
    fun landmark hmem => ((hwalked.sees landmark hmem).keep hkeeps).append [id]
  exact ⟨after, hdeclare, ⟨fun id => (hprofile id).trans (hwalked.profile_eq id), hlandmarks,
    state, (hfunc function).trans hstate, hlog⟩, hkeeps, hnext⟩

/-- A change of the state of the function that the log goes along with. -/
theorem of_modifyFunc (hwalked : Walked start function declared labels jumps walk)
    {change : Func → Func} {laterLabels laterJumps : List Landmark}
    (hmodify : walk.arena.modifyFunc function change = .ok after)
    (hstate : walk.arena.asFunc? function = .ok (some state))
    (hlog : JumpLog start laterLabels laterJumps (change state) walk.errors)
    (hsees : ∀ landmark ∈ laterLabels ++ laterJumps,
      Sees walk.arena declared landmark.visible) :
    Walked start function declared laterLabels laterJumps { walk with arena := after } := by
  refine ⟨fun id => ?_, fun landmark hmem => ?_, change state,
    asFunc?_self_of_modifyFunc hmodify hstate, hlog⟩
  · exact (map_get_of_change (get_of_modifyFunc hmodify)
      (fun _ => Declaration.jumpProfile_mapFunc) id).trans (hwalked.profile_eq id)
  · exact (hsees landmark hmem).keep (keepsChains_of_modifyFunc hmodify)

theorem declareLabel (hwalked : Walked start function declared labels jumps walk)
    (hsees : Sees walk.arena declared visible) (hcursor : cursor.last = visible.head?)
    (hnew : ∀ other ∈ labels, other.name ≠ name) :
    ∃ replaced after, walk.arena.declareLabel function name span cursor = .ok (replaced, after) ∧
      Walked start function declared (labels ++ [⟨name, span, visible⟩]) jumps
        { walk with arena := after } ∧
      KeepsChains declared walk.arena after := by
  obtain ⟨state, hstate, hlog⟩ := hwalked.exists_log
  obtain ⟨after, hmodify⟩ := exists_modifyFunc_of_asFunc? hstate fun state =>
    state.declareLabel name { span, lastVariable := cursor.last }
  refine ⟨state.findLabel? name, after, ?_, ?_, keepsChains_of_modifyFunc hmodify⟩
  · simp [Arena.declareLabel, findLabel?, hstate, hmodify]
  · have hnext : JumpLog start (labels ++ [⟨name, span, visible⟩]) jumps
        (state.declareLabel name { span, lastVariable := cursor.last }) walk.errors := by
      rw [hcursor]
      exact hlog.label hnew
    refine hwalked.of_modifyFunc hmodify hstate hnext fun landmark hmem => ?_
    simp only [List.mem_append, List.mem_singleton] at hmem
    obtain (hold | rfl) | hold := hmem
    · exact hwalked.sees landmark (List.mem_append_left _ hold)
    · exact hsees
    · exact hwalked.sees landmark (List.mem_append_right _ hold)

/-- A jump is checked at once if its label is declared, and waits otherwise. -/
theorem jumpTo (hwalked : Walked start function declared labels jumps walk)
    (hsees : Sees walk.arena declared visible) (hcursor : cursor.last = visible.head?) :
    ∃ answer after, walk.arena.jumpTo function ⟨name, span, cursor.last⟩ = .ok (answer, after) ∧
      Walked start function declared labels (jumps ++ [⟨name, span, visible⟩])
        ⟨after, walk.errors ++ errorsOf answer⟩ ∧
      KeepsChains declared walk.arena after := by
  obtain ⟨state, hstate, hlog⟩ := hwalked.exists_log
  have hfind := hlog.find_eq name
  have hall : ∀ landmark ∈ labels ++ (jumps ++ [⟨name, span, visible⟩]),
      Sees walk.arena declared landmark.visible := by
    rw [← List.append_assoc]
    exact List.forall_mem_append.mpr ⟨hwalked.sees, by simpa using hsees⟩
  rw [hcursor]
  simp only [Arena.jumpTo, hstate, ok_bind, hfind]
  cases hlabel : labels.find? (·.name = name) with
  | some landmark =>
    have hcheck : walk.arena.checkJump visible.head? landmark.visible.head? span =
        .ok (answerOf (start.report labels ⟨name, span, visible⟩)) :=
      hwalked.checkJump_eq ⟨name, span, visible⟩ hsees hlabel
    refine ⟨answerOf (start.report labels ⟨name, span, visible⟩), walk.arena,
      by simp [Landmark.place, hcheck], ⟨hwalked.profile_eq, hall, state, hstate, ?_⟩,
      fun _ _ => rfl⟩
    rw [errorsOf_answerOf]
    exact hlog.check ⟨landmark, List.mem_of_find?_eq_some hlabel,
      by simpa using List.find?_some hlabel⟩
  | none =>
    obtain ⟨after, hmodify⟩ := exists_modifyFunc_of_asFunc? hstate fun state =>
      { state with pendingJumps := state.pendingJumps ++ [⟨name, span, visible.head?⟩] }
    refine ⟨.ok (), after, by simp [hmodify], ?_, keepsChains_of_modifyFunc hmodify⟩
    rw [errorsOf, List.append_nil]
    exact hwalked.of_modifyFunc hmodify hstate hlog.wait hall

/-! ## A whole body -/

/-- A walk through a body comes past its variables, labels and jumps, and leaves the chains that it
began with alone. -/
theorem exists_walk (hvariables : ∀ id ∈ body.locals, start.IsVariable id)
    (hwalked : Walked start function declared labels jumps walk)
    (hsees : Sees walk.arena declared visible) (hcursor : cursor.last = visible.head?)
    (hnodup : (declared ++ body.locals).Nodup)
    (hnames : ((labels ++ body.labels visible).map Landmark.name).Nodup) :
    ∃ after, body.walk function cursor walk = .ok after ∧
      Walked start function (declared ++ body.locals) (labels ++ body.labels visible)
        (jumps ++ body.jumps visible) after ∧
      KeepsChains declared walk.arena after.arena := by
  induction body generalizing cursor declared visible labels jumps walk with
  | done =>
    refine ⟨walk, rfl, ?_, fun _ _ => rfl⟩
    simpa [Body.locals, Body.labels, Body.jumps] using hwalked
  | declare id rest ih =>
    obtain ⟨hvariable, hothers⟩ := List.forall_mem_cons.mp hvariables
    have hfresh : id ∉ declared := by
      intro hmem
      exact (List.nodup_append.mp hnodup).2.2 id hmem id List.mem_cons_self rfl
    obtain ⟨arena, hdeclare, hnext, hkeeps, hnextSees⟩ :=
      hwalked.declareVariable hsees hcursor hvariable hfresh
    rw [Body.locals, List.append_cons] at hnodup
    obtain ⟨after, hrest, hafter, hrestKeeps⟩ :=
      ih hothers hnext hnextSees rfl hnodup hnames
    refine ⟨after, ?_, ?_, hkeeps.trans hrestKeeps.left⟩
    · rw [Body.walk, hdeclare, ok_bind]
      exact hrest
    · rwa [Body.locals, List.append_cons]
  | label name span rest ih =>
    have hnew : ∀ other ∈ labels, other.name ≠ name := by
      intro other hother hname
      rw [List.map_append, List.nodup_append] at hnames
      exact hnames.2.2 other.name (List.mem_map_of_mem hother) name
        (by simp [Body.labels]) hname
    obtain ⟨replaced, arena, hlabel, hnext, hkeeps⟩ := hwalked.declareLabel hsees hcursor hnew
    rw [Body.labels, List.append_cons] at hnames
    obtain ⟨after, hrest, hafter, hrestKeeps⟩ :=
      ih hvariables hnext (hsees.keep hkeeps) hcursor hnodup hnames
    refine ⟨after, ?_, ?_, hkeeps.trans hrestKeeps⟩
    · rw [Body.walk, hlabel, ok_bind]
      exact hrest
    · rwa [Body.labels, List.append_cons]
  | jump name span rest ih =>
    obtain ⟨answer, arena, hjump, hnext, hkeeps⟩ := hwalked.jumpTo hsees hcursor
    obtain ⟨after, hrest, hafter, hrestKeeps⟩ :=
      ih hvariables hnext (hsees.keep hkeeps) hcursor hnodup hnames
    refine ⟨after, ?_, ?_, hkeeps.trans hrestKeeps⟩
    · rw [Body.walk, hjump, ok_bind]
      exact hrest
    · rwa [Body.jumps, List.append_cons]
  | block inner rest ihInner ihRest =>
    obtain ⟨hinner, hothers⟩ := List.forall_mem_append.mp hvariables
    rw [Body.locals, ← List.append_assoc] at hnodup ⊢
    rw [Body.labels, ← List.append_assoc] at hnames ⊢
    rw [Body.jumps, ← List.append_assoc]
    have hinnerNodup := (List.nodup_append.mp hnodup).1
    have hinnerNames := hnames
    rw [List.map_append] at hinnerNames
    obtain ⟨middle, hwalk, hmiddle, hkeeps⟩ :=
      ihInner hinner hwalked hsees hcursor hinnerNodup (List.nodup_append.mp hinnerNames).1
    -- The cursor of the block is gone, but the chain of the one from before is still there.
    have hmiddleSees := (hsees.keep hkeeps).append inner.locals
    obtain ⟨after, hrest, hafter, hrestKeeps⟩ :=
      ihRest hothers hmiddle hmiddleSees hcursor hnodup hnames
    refine ⟨after, ?_, hafter, hkeeps.trans hrestKeeps.left⟩
    rw [Body.walk, hwalk, ok_bind]
    exact hrest

/-! ## The waiting jumps -/

/-- The waiting jumps whose labels are declared are checked, and each gives its own error. -/
theorem checkJumps_eq (hwalked : Walked start function declared labels jumps walk)
    (hfind : ∀ name, state.findLabel? name =
      (labels.find? (·.name = name)).map Landmark.place)
    (hwaiting : ∀ jump ∈ waiting, Sees walk.arena declared jump.visible) :
    walk.arena.checkJumps state (waiting.map Landmark.pending) =
      .ok (waiting.filterMap (start.report labels)) := by
  rw [checkJumps, List.mapM_map, mapM_eq_ok_map (start.report labels)]
  · rw [ok_bind, pure_eq_ok, List.filterMap_map]
    rfl
  intro jump hjump
  have hname := hfind jump.name
  cases hlabel : labels.find? (·.name = jump.name) with
  | none =>
    rw [hlabel, Option.map_none] at hname
    simp only [Function.comp_apply, Landmark.pending, hname, report, hlabel, Option.bind_none]
  | some landmark =>
    have hcheck := hwalked.checkJump_eq jump (hwaiting jump hjump) hlabel
    rw [hlabel, Option.map_some] at hname
    simp only [Function.comp_apply, Landmark.pending, hname, Landmark.place, hcheck, ok_bind]
    cases start.report labels jump <;> rfl

/-- Every jump so far is reported as it should be when the waiting jumps are resolved. -/
theorem exists_resolveJumps (hwalked : Walked start function declared labels jumps walk) :
    ∃ errors after, walk.arena.resolveJumps function = .ok (errors, after) ∧
      (walk.errors ++ errors).Perm (jumps.filterMap (start.report labels)) := by
  obtain ⟨state, hstate, hlog⟩ := hwalked.exists_log
  obtain ⟨checked, waiting, hwaiting, hperm, hlabels, herrors⟩ := hlog.exists_split
  obtain ⟨after, hmodify⟩ := exists_modifyFunc_of_asFunc? hstate fun state =>
    { state with
      pendingJumps := state.pendingJumps.filter fun jump => (state.findLabel? jump.label).isNone }
  have hsees : ∀ jump ∈ waiting, Sees walk.arena declared jump.visible := fun jump hjump =>
    hwalked.sees jump (List.mem_append_right labels
      (hperm.subset (List.mem_append_right checked hjump)))
  refine ⟨waiting.filterMap (start.report labels), after, ?_, ?_⟩
  · rw [resolveJumps, hstate, ok_bind]
    simp only [hwaiting, hwalked.checkJumps_eq hlog.find_eq hsees, ok_bind, hmodify, pure_eq_ok]
  · rw [herrors, ← List.filterMap_append]
    exact hperm.filterMap _

end Walked

/-! ## Reports -/

/-- The variable is visible at the label, but not at the jump, and is needed. -/
def Skips (arena : Arena) (jump label : Landmark) (id : DeclId) : Prop :=
  id ∈ label.visible ∧ id ∉ jump.visible ∧ arena.IsNeeded id

/-- The variable is the most recent one that a jump to the label skips. -/
def SkipsLast (arena : Arena) (jump label : Landmark) (id : DeclId) : Prop :=
  arena.Skips jump label id ∧ ∃ newer older, label.visible = newer ++ id :: older ∧
    ∀ other ∈ newer, ¬arena.Skips jump label other

theorem find?_eq_some_iff_skipsLast :
    (landmark.visible.find? fun id => id ∉ jump.visible && arena.needs id) = some id ↔
      arena.SkipsLast jump landmark id := by
  have hskips : ∀ other ∈ landmark.visible,
      (decide (other ∉ jump.visible) && arena.needs other) = true ↔
        arena.Skips jump landmark other := by
    intro other hother
    simp [Skips, needs_iff, hother]
  rw [List.find?_eq_some_iff_append, SkipsLast]
  constructor
  · rintro ⟨hfound, newer, older, hvisible, hnewer⟩
    refine ⟨(hskips id (by simp [hvisible])).mp hfound, newer, older, hvisible, ?_⟩
    intro other hother hskipped
    have hnot := hnewer other hother
    rw [(hskips other hskipped.1).mpr hskipped] at hnot
    contradiction
  · rintro ⟨hskipped, newer, older, hvisible, hnewer⟩
    refine ⟨(hskips id hskipped.1).mpr hskipped, newer, older, hvisible, ?_⟩
    intro other hother
    rw [Bool.not_eq_true', ← Bool.not_eq_true, hskips other (by simp [hvisible, hother])]
    exact hnewer other hother

/-- The error names the most recent variable that is skipped. -/
theorem jumpError_eq_some_iff {error : DeclError} :
    arena.jumpError jump.visible landmark.visible jump.span = some error ↔
      ∃ id, arena.SkipsLast jump landmark id ∧ error = .gotoSkipsInitializer id jump.span := by
  simp only [jumpError, Option.map_eq_some_iff, find?_eq_some_iff_skipsLast]
  exact exists_congr fun id => and_congr_right fun _ => eq_comm

theorem isSome_jumpError_iff :
    (arena.jumpError jump.visible landmark.visible jump.span).isSome = true ↔
      ∃ id, arena.Skips jump landmark id := by
  simp [jumpError, Skips, needs_iff]

/-- A label can be found by its name if the names are different. -/
theorem find?_eq_some_of_nodup (hnames : (labels.map Landmark.name).Nodup)
    (hmem : landmark ∈ labels) : labels.find? (·.name = landmark.name) = some landmark := by
  induction labels with
  | nil => contradiction
  | cons first labels ih =>
    rw [List.map_cons, List.nodup_cons] at hnames
    obtain rfl | hmem := List.mem_cons.mp hmem
    · simp
    · have hne : first.name ≠ landmark.name := by
        intro hname
        exact hnames.1 (hname ▸ List.mem_map_of_mem hmem)
      rw [List.find?_cons_of_neg (by simpa using hne), ih hnames.2 hmem]

/-- The check of a body reports each of its jumps once, or not at all.  A jump is reported if and
only if some variable that is visible at its label, but not at the jump, is needed, and the report
names the most recent one of these.  What is visible is read off the tree of blocks.  A jump whose
label is not in the body is not reported. -/
theorem checkBody_reports (hfunction : arena.asFunc? function = .ok (some state))
    (hlabels : state.labels = .empty) (hpending : state.pendingJumps = [])
    (hvariables : ∀ id ∈ body.locals, arena.IsVariable id) (hnodup : body.locals.Nodup)
    (hnames : ((body.labels []).map Landmark.name).Nodup) :
    ∃ errors after, arena.checkBody function body = .ok (errors, after) ∧
      errors.Perm ((body.jumps []).filterMap (arena.report (body.labels []))) ∧
      ∀ jump ∈ body.jumps [],
        ((∀ label ∈ body.labels [], label.name ≠ jump.name) →
          arena.report (body.labels []) jump = none) ∧
        ∀ label ∈ body.labels [], label.name = jump.name →
          ((arena.report (body.labels []) jump).isSome = true ↔
            ∃ id, arena.Skips jump label id) ∧
          ∀ error, arena.report (body.labels []) jump = some error ↔
            ∃ id, arena.SkipsLast jump label id ∧
              error = .gotoSkipsInitializer id jump.span := by
  have hstart : Walked arena function [] [] [] { arena } :=
    ⟨fun _ => rfl, by simp, state, hfunction, .empty hlabels hpending⟩
  obtain ⟨walked, hwalk, hwalked, -⟩ :=
    hstart.exists_walk hvariables ⟨.bottom, by simp⟩ rfl hnodup hnames
  obtain ⟨errors, after, hresolve, hperm⟩ := hwalked.exists_resolveJumps
  refine ⟨walked.errors ++ errors, after, ?_, hperm, fun jump _ => ⟨fun hnone => ?_, ?_⟩⟩
  · simp [checkBody, hwalk, hresolve]
  · have hfind : (body.labels []).find? (·.name = jump.name) = none := by simpa using hnone
    rw [report, hfind, Option.bind_none]
  · intro label hlabel hname
    have hreport : arena.report (body.labels []) jump =
        arena.jumpError jump.visible label.visible jump.span := by
      rw [report, ← hname, find?_eq_some_of_nodup hnames hlabel, Option.bind_some]
    rw [hreport]
    exact ⟨isSome_jumpError_iff, fun error => jumpError_eq_some_iff⟩

def initializedLocals : Arena where
  declarations :=
    let initialized : Declaration :=
      { name := .anonymous, span := .synthetic, owner := .function ⟨0⟩
        entity := .var { initializer := some (.expression ⟨0⟩) } }
    #[.func .anonymous .synthetic .plain [], initialized, initialized]

/-- A jump into a block, and one out of it and over a variable that is declared behind the block. -/
def jumpsAcrossBlock : Body :=
  .jump ⟨1⟩ .synthetic
    (.block (.declare ⟨1⟩ (.label ⟨1⟩ .synthetic (.jump ⟨2⟩ .synthetic .done)))
      (.declare ⟨2⟩ (.label ⟨2⟩ .synthetic .done)))

theorem checkBody_reports_jumpsAcrossBlock :
    initializedLocals.asFunc? ⟨0⟩ = .ok (some {}) ∧
    ∃ errors after, initializedLocals.checkBody ⟨0⟩ jumpsAcrossBlock = .ok (errors, after) ∧
      errors.Perm ((jumpsAcrossBlock.jumps []).filterMap
        (initializedLocals.report (jumpsAcrossBlock.labels []))) ∧
      ∀ jump ∈ jumpsAcrossBlock.jumps [],
        ((∀ label ∈ jumpsAcrossBlock.labels [], label.name ≠ jump.name) →
          initializedLocals.report (jumpsAcrossBlock.labels []) jump = none) ∧
        ∀ label ∈ jumpsAcrossBlock.labels [], label.name = jump.name →
          ((initializedLocals.report (jumpsAcrossBlock.labels []) jump).isSome = true ↔
            ∃ id, initializedLocals.Skips jump label id) ∧
          ∀ error, initializedLocals.report (jumpsAcrossBlock.labels []) jump = some error ↔
            ∃ id, initializedLocals.SkipsLast jump label id ∧
              error = .gotoSkipsInitializer id jump.span := by
  have hfunction : initializedLocals.asFunc? ⟨0⟩ = .ok (some {}) := rfl
  have hvariables : ∀ id ∈ jumpsAcrossBlock.locals, initializedLocals.IsVariable id := by
    intro id hid
    obtain rfl | rfl : id = ⟨1⟩ ∨ id = ⟨2⟩ := by
      simpa [jumpsAcrossBlock, Body.locals] using hid
    · exact ⟨_, rfl, rfl⟩
    · exact ⟨_, rfl, rfl⟩
  exact ⟨hfunction, checkBody_reports hfunction rfl rfl hvariables (by decide) (by decide)⟩

/-- Each of the two jumps skips the variable that its label sees. -/
example : (do return (← initializedLocals.checkBody ⟨0⟩ jumpsAcrossBlock).1) =
    .ok [.gotoSkipsInitializer ⟨1⟩ .synthetic, .gotoSkipsInitializer ⟨2⟩ .synthetic] :=
  rfl

end Arena

end Declarations
