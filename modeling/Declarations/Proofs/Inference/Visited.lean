import Declarations.Proofs.Inference.Operation

/-!
# What a walk enters and what it changes

A function that was entered stays open until it is settled, and a settled one is not undecided any
more, so no function is entered a second time.  That bounds the length of a walk by the number of
functions that are undecided before it.  It also bounds what the walk changes: a declaration is
written to when it is settled, so only functions that were entered change, and calls of undecided
functions lead to each of them from the one that was asked about.
-/

namespace Declarations

namespace Session

open Relation Arena

variable {config : Config} {wanted : Attribute} {roots : Set DeclId} {session after : Session}
variable {start arena : Arena} {opened below group entered : List DeclId} {function id : DeclId}
variable {moment : Moment} {journal : Journal} {holds : Bool}

/-- The questions on the stack say which functions are open. -/
theorem Working.unique {others : List DeclId} (hworking : Working config wanted session opened)
    (hother : Working config wanted session others) : opened = others := by
  have hsame : (opened.map fun function => (⟨function, wanted⟩ : Frame)) =
      others.map fun function => ⟨function, wanted⟩ :=
    hworking.frames_eq.symm.trans hother.frames_eq
  apply List.map_injective_iff.mpr _ hsame
  intro first second hframe
  exact (Frame.mk.inj hframe).1

/-! ## Functions that were entered -/

/-- How far a walk has come that began with the arena `start`, when it has entered some functions
and still works on those that are open. -/
structure Visited (config : Config) (wanted : Attribute) (roots : Set DeclId) (start : Arena)
    (entered opened : List DeclId) (session : Session) : Prop where
  working : Working config wanted session opened
  nodup : entered.Nodup
  undecided : ∀ function ∈ entered, function ∈ start.withStatus config wanted .undecided
  reached : ∀ function ∈ entered,
    ∃ root ∈ roots, ReflTransGen (start.DependsOn config wanted) root function
  opened_subset : opened ⊆ entered
  outline_eq : session.arena.keep ∅ = start.keep ∅
  /-- Only functions that were entered and are not open any more have changed. -/
  get_eq : ∀ id, id ∉ entered ∨ id ∈ opened → session.arena.get id = start.get id
  /-- Those were given a conclusion. -/
  concluded : ∀ id ∈ entered, id ∉ opened → ∃ holds, session.arena.get id =
    (start.get id).map fun declaration => declaration.conclude wanted holds

/-- At the beginning nothing was entered. -/
theorem Idle.visited (config : Config) (wanted : Attribute) (roots : Set DeclId)
    (hidle : session.Idle) : Visited config wanted roots session.arena [] [] session where
  working := hidle.working
  nodup := List.nodup_nil
  undecided := by simp
  reached := by simp
  opened_subset := List.Subset.refl []
  outline_eq := rfl
  get_eq _ _ := rfl
  concluded := by simp

namespace Visited

/-- Settling the newest open functions. -/
theorem settle (hvisited : Visited config wanted roots start entered (below ++ group) session)
    (hconclude : session.arena.conclude wanted holds group = .ok arena) :
    Visited config wanted roots start entered below
      ⟨arena, session.stack.cut below.length⟩ := by
  obtain ⟨-, hgroup, hdisjoint⟩ := List.nodup_append.mp hvisited.working.nodup
  have hget := get_of_conclude hgroup hconclude
  constructor
  case working => exact (hvisited.working.settleFrom hconclude).2.1
  case nodup => exact hvisited.nodup
  case undecided => exact hvisited.undecided
  case reached => exact hvisited.reached
  case opened_subset =>
    intro function hfunction
    exact hvisited.opened_subset (List.mem_append_left group hfunction)
  case outline_eq =>
    rw [← hvisited.outline_eq]
    exact keep_of_conclude (FlagSet.not_mem_empty wanted) hconclude
  case get_eq =>
    intro id hid
    have hnot : id ∉ group := by
      intro hmember
      cases hid with
      | inl hentered =>
        exact hentered (hvisited.opened_subset (List.mem_append_right below hmember))
      | inr hopen => exact hdisjoint id hopen id hmember rfl
    rw [hget, if_neg hnot]
    exact hvisited.get_eq id (hid.imp_right (List.mem_append_left group))
  case concluded =>
    intro id hentered hclosed
    by_cases hmember : id ∈ group
    · have hopen : id ∈ below ++ group := List.mem_append_right below hmember
      refine ⟨holds, ?_⟩
      rw [hget, if_pos hmember, hvisited.get_eq id (.inr hopen)]
    · have hold : id ∉ below ++ group := by simp [hclosed, hmember]
      rw [hget, if_neg hmember]
      exact hvisited.concluded id hentered hold

section Walk

variable (hvisited : Visited config wanted roots start entered opened session)
include hvisited

/-- A function that was entered and is not open any more is decided. -/
theorem notMem_entered (hundecided : function ∈ session.arena.withStatus config wanted .undecided)
    (hnew : function ∉ opened) : function ∉ entered := by
  intro hentered
  obtain ⟨declaration, hget, hstatus⟩ := hvisited.undecided function hentered
  obtain ⟨holds, hconcluded⟩ := hvisited.concluded function hentered hnew
  rw [hget, ok_map] at hconcluded
  rw [mem_withStatus_iff_of_get hconcluded, Declaration.status_conclude hstatus] at hundecided
  cases holds <;> contradiction

/-- What is undecided now was undecided at the beginning. -/
theorem undecided_of_undecided
    (hundecided : function ∈ session.arena.withStatus config wanted .undecided) :
    function ∈ start.withStatus config wanted .undecided := by
  have hsame : session.arena.get function = start.get function := by
    apply hvisited.get_eq
    by_cases hopen : function ∈ opened
    · exact .inr hopen
    · exact .inl (hvisited.notMem_entered hundecided hopen)
  obtain ⟨declaration, hget, hstatus⟩ := hundecided
  exact ⟨declaration, hsame ▸ hget, hstatus⟩

/-- A function to which all open functions lead can be reached. -/
theorem reached_of_leads
    (hleads : ∀ other ∈ opened, Leads session.arena opened other function)
    (hfirst : opened = [] → function ∈ roots) :
    ∃ root ∈ roots, ReflTransGen (start.DependsOn config wanted) root function := by
  cases hopened : opened with
  | nil => exact ⟨function, hfirst hopened, ReflTransGen.refl⟩
  | cons other rest =>
    have hother : other ∈ opened := by simp [hopened]
    obtain ⟨root, hroot, hreaches⟩ := hvisited.reached other (hvisited.opened_subset hother)
    refine ⟨root, hroot, hreaches.trans ?_⟩
    apply ReflTransGen.mono _ _ _ (hvisited.working.reaches (hleads other hother))
    intro caller callee hdepends
    exact ⟨hvisited.undecided_of_undecided hdepends.1,
      (callsTo_congr hvisited.outline_eq).mp hdepends.2⟩

/-- Entering a function. -/
theorem enter (hundecided : function ∈ session.arena.withStatus config wanted .undecided)
    (hnew : function ∉ opened)
    (hreached : ∃ root ∈ roots, ReflTransGen (start.DependsOn config wanted) root function) :
    Visited config wanted roots start (entered ++ [function]) (opened ++ [function])
      (session.push ⟨function, wanted⟩) where
  working := hvisited.working.push hundecided hnew
  nodup := by
    rw [← List.concat_eq_append]
    exact hvisited.nodup.concat (hvisited.notMem_entered hundecided hnew)
  undecided := by
    have hbefore := hvisited.undecided_of_undecided hundecided
    simpa [or_imp, forall_and] using ⟨hvisited.undecided, hbefore⟩
  reached := by simpa [or_imp, forall_and] using ⟨hvisited.reached, hreached⟩
  opened_subset := by
    intro other hother
    rw [List.mem_append] at hother ⊢
    exact hother.imp_left (fun hopen => hvisited.opened_subset hopen)
  outline_eq := hvisited.outline_eq
  get_eq id hid := by
    apply hvisited.get_eq id
    by_cases hsame : id = function
    · rw [hsame]
      exact .inl (hvisited.notMem_entered hundecided hnew)
    · simpa [hsame] using hid
  concluded id hentered hclosed := by
    rw [List.mem_append, List.mem_singleton] at hentered hclosed
    rw [not_or] at hclosed
    exact hvisited.concluded id (hentered.resolve_right hclosed.2) hclosed.1

/-- One move enters at most one function. -/
theorem move (hmove : Moves config wanted roots session moment) :
    ∃ functions opened, (moment.event.frame?.toList =
        functions.map fun function => ⟨function, wanted⟩) ∧
      Visited config wanted roots start (entered ++ functions) opened moment.after := by
  cases hmove with
  | @opened others function working undecided new leads first =>
    obtain rfl := hvisited.working.unique working
    have hreached := hvisited.reached_of_leads leads first
    exact ⟨[function], _, rfl, hvisited.enter undecided new hreached⟩
  | @granted below group _ working supported concluded =>
    obtain rfl := hvisited.working.unique working
    refine ⟨[], below, rfl, ?_⟩
    rw [List.append_nil]
    exact hvisited.settle concluded
  | @denied below _ _ _ working broken leads concluded =>
    obtain rfl := hvisited.working.unique working
    refine ⟨[], below, rfl, ?_⟩
    rw [List.append_nil]
    exact hvisited.settle concluded

/-- No more functions are entered than there are undecided ones at the beginning. -/
theorem length_le : entered.length ≤ start.declarations.toList.countP
    (fun declaration => declaration.status config wanted = .undecided) := by
  let undecided := start.declarations.toList.zipIdx.filter fun entry =>
    entry.1.status config wanted = .undecided
  have hnumbers : (entered.map DeclId.number).Nodup := by
    apply List.Nodup.map _ hvisited.nodup
    rintro ⟨left⟩ ⟨right⟩ rfl
    rfl
  have hsubset : entered.map DeclId.number ⊆ undecided.map Prod.snd := by
    intro number hnumber
    obtain ⟨function, hfunction, rfl⟩ := List.mem_map.mp hnumber
    obtain ⟨declaration, hget, hstatus⟩ := hvisited.undecided function hfunction
    have hentry : (declaration, function.number) ∈ undecided := by
      rw [List.mem_filter, List.mem_zipIdx_iff_getElem?, Array.getElem?_toList]
      exact ⟨get_eq_ok_iff.mp hget, by simpa using hstatus⟩
    exact List.mem_map_of_mem hentry
  calc
    entered.length = (entered.map DeclId.number).length := by rw [List.length_map]
    _ ≤ (undecided.map Prod.snd).length := (List.subperm_of_subset hnumbers hsubset).length_le
    _ = start.declarations.toList.zipIdx.countP
          (fun entry => entry.1.status config wanted = .undecided) := by
        rw [List.length_map, List.countP_eq_length_filter]
    _ = (start.declarations.toList.zipIdx.map Prod.fst).countP
          (fun declaration => declaration.status config wanted = .undecided) := by
        rw [List.countP_map]
        rfl
    _ = start.declarations.toList.countP
          (fun declaration => declaration.status config wanted = .undecided) := by
        rw [List.zipIdx_map_fst]

end Walk

/-- A walk enters the functions of its journal. -/
theorem run (hvisited : Visited config wanted roots start entered opened session)
    (htells : journal.Tells (Moves config wanted roots) session after) :
    ∃ functions opened, (journal.entered =
        functions.map fun function => ⟨function, wanted⟩) ∧
      Visited config wanted roots start (entered ++ functions) opened after := by
  induction htells generalizing entered opened with
  | nil =>
    refine ⟨[], opened, rfl, ?_⟩
    rwa [List.append_nil]
  | @cons before after moment journal hmove _ ih =>
    obtain ⟨first, middle, hfirst, hnext⟩ := hvisited.move hmove
    obtain ⟨rest, last, hrest, hafter⟩ := ih hnext
    refine ⟨first ++ rest, last, ?_, ?_⟩
    · rw [Journal.entered_cons, hfirst, hrest, List.map_append]
    · rwa [← List.append_assoc]

end Visited

/-- A question is answered by a walk from the function that is really asked about, which leaves
nothing open. -/
theorem infer_visited (config : Config) (wanted : Attribute) (hidle : session.Idle)
    (hfunction : function.number < session.arena.size) :
    ∃ target holds after journal entered,
      session.arena.aliasedFunction function = .ok target ∧
      session.infer config function wanted = .ok (holds, after) ∧
      session.inferJournal config function wanted = .ok ((holds, after), journal) ∧
      Answered config wanted session (target ∈ ·) holds after ∧
      journal.Tells (Moves config wanted {target}) session after ∧
      (journal.entered = entered.map fun function => ⟨function, wanted⟩) ∧
      Visited config wanted {target} session.arena entered [] after := by
  obtain ⟨target, holds, after, journal, halias, -, hrun, hanswered, htells⟩ :=
    inferJournal_answered config wanted hidle hfunction
  obtain ⟨entered, opened, hentered, hvisited⟩ :=
    (hidle.visited config wanted {target}).run htells
  rw [List.nil_append] at hvisited
  obtain rfl := hvisited.working.unique hanswered.idle.working
  have hplain : session.infer config function wanted = .ok (holds, after) := by
    rw [← map_inferJournal, hrun, ok_map]
  exact ⟨target, holds, after, journal, entered, halias, hplain, hrun, hanswered, htells, hentered,
    hvisited⟩

/-! ## Each function is entered once -/

/-- What the journal of a walk shows about its questions. -/
structure Journal.EntersOnce (config : Config) (wanted : Attribute) (start : Arena)
    (journal : Journal) (after : Session) : Prop where
  /-- Each moment is what its event makes of the session before, from the first to the last. -/
  tells : journal.Tells (fun before moment => moment.event.perform before = .ok moment.after)
    { arena := start } after
  nodup : journal.entered.Nodup
  undecided : ∀ frame ∈ journal.entered, frame.wanted = wanted ∧
    frame.function ∈ start.withStatus config wanted .undecided
  length_le : journal.entered.length ≤ start.declarations.toList.countP
    fun declaration => declaration.status config wanted = .undecided
  /-- At every moment the table leads to the places of the questions on the stack. -/
  indexed : ∀ moment ∈ journal, moment.after.stack.Indexed

/-- The table is right after every move. -/
theorem Moves.indexed (hmove : Moves config wanted roots session moment) :
    moment.after.stack.Indexed := by
  cases hmove with
  | opened working undecided new _ _ => exact (working.push undecided new).indexed
  | @granted below _ _ working => exact working.indexed.cut below.length
  | @denied below _ _ _ working => exact working.indexed.cut below.length

/-- A question is answered without entering any function twice, and nothing is left open. -/
theorem infer_enters_once (config : Config) (wanted : Attribute) (hclosed : arena.Closed)
    (hfunction : function.number < arena.size) :
    ∃ holds after journal,
      infer config { arena } function wanted = .ok (holds, after) ∧
      inferJournal config { arena } function wanted = .ok ((holds, after), journal) ∧
      journal.EntersOnce config wanted arena after ∧
      after.stack.frames = [] ∧ after.stack.places = [] ∧
      ∀ other about, after.isOpen other about = false := by
  have hidle : Session.Idle { arena } := ⟨rfl, hclosed⟩
  obtain ⟨target, holds, after, journal, entered, -, hplain, hrun, hanswered, htells, hentered,
    hvisited⟩ := infer_visited config wanted hidle hfunction
  have honce : journal.EntersOnce config wanted arena after := by
    constructor
    case tells => exact htells.mono fun _ _ hmove => hmove.perform_eq
    case nodup =>
      rw [hentered]
      apply List.Nodup.map _ hvisited.nodup
      intro first second hframe
      exact (Frame.mk.inj hframe).1
    case undecided =>
      intro frame hframe
      rw [hentered] at hframe
      obtain ⟨function, hmem, rfl⟩ := List.mem_map.mp hframe
      exact ⟨rfl, hvisited.undecided function hmem⟩
    case length_le =>
      rw [hentered, List.length_map]
      exact hvisited.length_le
    case indexed =>
      have hkept := htells.keeps (fun session => session.stack.Indexed)
        (fun _ _ _ hmove => hmove.indexed) FrameStack.indexed_empty
      exact hkept.2
  have hempty : after.stack = {} := hanswered.idle.stack_eq
  refine ⟨holds, after, journal, hplain, hrun, honce, by rw [hempty], by rw [hempty], ?_⟩
  intro other about
  rw [isOpen, hempty]
  rfl

theorem infer_enters_once_throwingCycle :
    throwingCycle.Closed ∧ (⟨0⟩ : DeclId).number < throwingCycle.size ∧
    ∃ holds after journal,
      infer {} { arena := throwingCycle } ⟨0⟩ .nothrow = .ok (holds, after) ∧
      inferJournal {} { arena := throwingCycle } ⟨0⟩ .nothrow = .ok ((holds, after), journal) ∧
      journal.EntersOnce {} .nothrow throwingCycle after ∧
      after.stack.frames = [] ∧ after.stack.places = [] ∧
      ∀ other about, after.isOpen other about = false := by
  have hclosed : throwingCycle.Closed := by decide
  have hsize : (⟨0⟩ : DeclId).number < throwingCycle.size := by decide
  exact ⟨hclosed, hsize, infer_enters_once {} .nothrow hclosed hsize⟩

/-! ## Only functions that were entered change -/

/-- A function before and after an attribute was settled for it.  It was given the attribute exactly
if it is one of those that support each other, and nothing else about it has changed. -/
def SettledRightly (config : Config) (wanted : Attribute) (before after : Arena) (id : DeclId) :
    Prop :=
  ∃ declaration state, before.get id = .ok declaration ∧ declaration.entity = .func state ∧
    (id ∈ before.selfSupporting config wanted → after.get id = .ok
      { declaration with
        storage := insert wanted.flag declaration.storage
        entity := .func { state with
          concluded := insert wanted state.concluded
          inferred := insert wanted state.inferred } }) ∧
    (id ∉ before.selfSupporting config wanted → after.get id = .ok
      { declaration with
        entity := .func { state with concluded := insert wanted state.concluded } })

/-- The conclusion about a function is the right one. -/
theorem Visited.holds_iff (hvisited : Visited config wanted roots start entered [] after)
    (hlearns : Learns config wanted start after.arena) (hid : id ∈ entered)
    (hconcluded : after.arena.get id =
      (start.get id).map fun declaration => declaration.conclude wanted holds) :
    id ∈ start.selfSupporting config wanted ↔ holds = true := by
  have hundecided := hvisited.undecided id hid
  obtain ⟨declaration, hget, hstatus⟩ := hundecided
  rw [hget, ok_map] at hconcluded
  have hafter : ∀ status, id ∈ after.arena.withStatus config wanted status ↔
      (if holds then .holds else .fails) = status := by
    intro status
    rw [mem_withStatus_iff_of_get hconcluded, Declaration.status_conclude hstatus]
  have hself : id ∈ start.selfSupporting config wanted ↔ id ∈ start.entitled config wanted := by
    rw [entitled, Set.mem_union, or_iff_right]
    exact notMem_withStatus (hvisited.undecided id hid)
  have hentitled : id ∈ after.arena.entitled config wanted ↔
      id ∈ after.arena.withStatus config wanted .holds := by
    constructor
    · intro hmem
      refine (entitled_subset hmem).resolve_right ?_
      rw [hafter]
      cases holds <;> decide
    · exact Or.inl
  rw [hself, ← hlearns.entitled_eq wanted, hentitled, hafter]
  cases holds <;> decide

/-- A question changes nothing but the record of undecided functions to which calls of undecided
functions lead.  They are marked as settled, and as having the attribute exactly if they have it. -/
theorem infer_changes (config : Config) (wanted : Attribute) (hclosed : arena.Closed)
    (hfunction : function.number < arena.size) :
    ∃ target holds after, arena.aliasedFunction function = .ok target ∧
      infer config { arena } function wanted = .ok (holds, after) ∧
      after.arena.size = arena.size ∧
      after.arena.aggregates = arena.aggregates ∧
      after.arena.nextSequence = arena.nextSequence ∧
      ∀ id, after.arena.get id ≠ arena.get id →
        id ∈ arena.withStatus config wanted .undecided ∧
        ReflTransGen (arena.DependsOn config wanted) target id ∧
        SettledRightly config wanted arena after.arena id := by
  have hidle : Session.Idle { arena } := ⟨rfl, hclosed⟩
  obtain ⟨target, holds, after, journal, entered, halias, hplain, -, hanswered, -, -, hvisited⟩ :=
    infer_visited config wanted hidle hfunction
  have houtline : after.arena.keep ∅ = arena.keep ∅ := hvisited.outline_eq
  refine ⟨target, holds, after, halias, hplain, size_of_keep_eq houtline,
    aggregates_of_keep_eq houtline, nextSequence_of_keep_eq houtline, ?_⟩
  intro id hchanged
  have hentered : id ∈ entered := by
    by_contra hnot
    exact hchanged (hvisited.get_eq id (.inl hnot))
  obtain ⟨root, hroot, hreaches⟩ := hvisited.reached id hentered
  rw [Set.mem_singleton_iff] at hroot
  rw [hroot] at hreaches
  have hundecided := hvisited.undecided id hentered
  obtain ⟨found, hconcluded⟩ := hvisited.concluded id hentered List.not_mem_nil
  have hself := hvisited.holds_iff hanswered.learns hentered hconcluded
  obtain ⟨declaration, hget, hstatus⟩ := hundecided
  obtain ⟨state, hfunc, -⟩ := Declaration.exists_of_status_undecided hstatus
  rw [hget, ok_map, Declaration.conclude_of_asFunc? hfunc] at hconcluded
  refine ⟨⟨declaration, hget, hstatus⟩, hreaches, declaration, state, hget,
    Declaration.entity_of_asFunc? hfunc, ?_, ?_⟩
  · intro hmem
    rw [hself] at hmem
    rw [hconcluded, hmem]
    rfl
  · intro hnot
    rw [hself, Bool.not_eq_true] at hnot
    rw [hconcluded, hnot]
    rfl

theorem infer_changes_throwingCycle :
    throwingCycle.Closed ∧ (⟨0⟩ : DeclId).number < throwingCycle.size ∧
    ∃ target holds after, throwingCycle.aliasedFunction ⟨0⟩ = .ok target ∧
      infer {} { arena := throwingCycle } ⟨0⟩ .purity = .ok (holds, after) ∧
      after.arena.get ⟨1⟩ ≠ throwingCycle.get ⟨1⟩ ∧
      ReflTransGen (throwingCycle.DependsOn {} .purity) target ⟨1⟩ ∧
      SettledRightly {} .purity throwingCycle after.arena ⟨1⟩ := by
  have hclosed : throwingCycle.Closed := by decide
  have hsize : (⟨0⟩ : DeclId).number < throwingCycle.size := by decide
  obtain ⟨target, holds, after, halias, hrun, -, -, -, hchanges⟩ :=
    infer_changes {} .purity hclosed hsize
  have hpure : (infer {} { arena := throwingCycle } ⟨0⟩ .purity).map (fun answer =>
      (answer.2.arena.get ⟨1⟩).map fun declaration => declaration.storage.contains .pure) =
      .ok (.ok true) := by
    rfl
  have hchanged : after.arena.get ⟨1⟩ ≠ throwingCycle.get ⟨1⟩ := by
    intro hsame
    rw [hrun, ok_map, hsame] at hpure
    contradiction
  obtain ⟨-, hreaches, hsettled⟩ := hchanges ⟨1⟩ hchanged
  exact ⟨hclosed, hsize, target, holds, after, halias, hrun, hchanged, hreaches, hsettled⟩

end Session

end Declarations
