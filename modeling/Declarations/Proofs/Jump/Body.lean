import Declarations.Proofs.Arena.Change
import Declarations.Proofs.Jump.Scope

/-!
# Jumps in a body

The body of a function is a tree of blocks.  The check of its jumps never sees the tree: it walks
through the body with a cursor, and each variable remembers only the one before it.  A place in the
body has the variables that the tree makes visible there, and the check finds exactly those, for a
jump to a label before it as well as for one that waits until its label is declared.
-/

namespace Declarations

/-- The body of a function, as far as jumps go: a list of statements, in which a block is such a
list again. -/
inductive Body where
  | done
  | declare (declared : DeclId) (rest : Body)
  | label (name : Name) (span : Span) (rest : Body)
  | jump (name : Name) (span : Span) (rest : Body)
  | block (inner rest : Body)

/-- A label or a jump, with the variables that are visible there, the most recent one first. -/
structure Landmark where
  name : Name
  span : Span
  visible : List DeclId

def Landmark.place (landmark : Landmark) : LabelPlace :=
  ⟨landmark.span, landmark.visible.head?⟩

def Landmark.pending (landmark : Landmark) : PendingJump :=
  ⟨landmark.name, landmark.span, landmark.visible.head?⟩

/-- How far a walk through a body has come: what it left in the arena, and the errors so far. -/
structure Walk where
  arena : Arena
  errors : List DeclError := []

def errorsOf : Except DeclError Unit → List DeclError
  | .ok () => []
  | .error cause => [cause]

namespace Body

def locals : Body → List DeclId
  | done => []
  | declare declared rest => declared :: rest.locals
  | label _ _ rest | jump _ _ rest => rest.locals
  | block inner rest => inner.locals ++ rest.locals

/-- The labels of a body.  What a block declares is not visible behind the block. -/
def labels : Body → List DeclId → List Landmark
  | done, _ => []
  | declare declared rest, visible => rest.labels (declared :: visible)
  | label name span rest, visible => ⟨name, span, visible⟩ :: rest.labels visible
  | jump _ _ rest, visible => rest.labels visible
  | block inner rest, visible => inner.labels visible ++ rest.labels visible

def jumps : Body → List DeclId → List Landmark
  | done, _ => []
  | declare declared rest, visible => rest.jumps (declared :: visible)
  | label _ _ rest, visible => rest.jumps visible
  | jump name span rest, visible => ⟨name, span, visible⟩ :: rest.jumps visible
  | block inner rest, visible => inner.jumps visible ++ rest.jumps visible

/-- Walks through a body.  A block gets a copy of the cursor, and behind the block the walk goes on
with the cursor from before. -/
def walk (function : DeclId) : Body → ScopeCursor → Walk → Except Fault Walk
  | done, _, progress => .ok progress
  | declare declared rest, cursor, progress => do
      let (cursor, arena) ← progress.arena.declareVariable cursor declared
      rest.walk function cursor { progress with arena }
  | label name span rest, cursor, progress => do
      let (_, arena) ← progress.arena.declareLabel function name span cursor
      rest.walk function cursor { progress with arena }
  | jump name span rest, cursor, progress => do
      let (answer, arena) ← progress.arena.jumpTo function ⟨name, span, cursor.last⟩
      rest.walk function cursor ⟨arena, progress.errors ++ errorsOf answer⟩
  | block inner rest, cursor, progress => do
      let progress ← inner.walk function cursor progress
      rest.walk function cursor progress

end Body

/-- What the check of jumps depends on, apart from the chains: whether a declaration can be skipped,
and whether it is a variable. -/
def Declaration.jumpProfile (declaration : Declaration) : Bool × Bool :=
  (declaration.canBeSkipped, declaration.asVariable?.isSome)

namespace Declaration

variable {declaration : Declaration}

theorem previous?_mapFunc {change : Func → Func} :
    (declaration.mapFunc change).previous? = declaration.previous? := by
  rw [previous?, previous?, asVariable?_mapFunc]

theorem jumpProfile_mapFunc {change : Func → Func} :
    (declaration.mapFunc change).jumpProfile = declaration.jumpProfile := by
  cases hfunc : declaration.asFunc? with
  | none => rw [mapFunc_of_asFunc?_eq_none hfunc]
  | some state =>
    simp only [jumpProfile, canBeSkipped, hasStaticStorage, asVariable?_mapFunc, storage_mapFunc]
    rw [mapFunc_of_asFunc? hfunc, entity_of_asFunc? hfunc]

theorem asFunc?_mapVariable {change : Variable → Variable} :
    (declaration.mapVariable change).asFunc? = declaration.asFunc? := by
  cases hentity : declaration.entity <;> simp [mapVariable, asFunc?, hentity]

/-- The place of a variable in its chain is no part of the profile. -/
theorem jumpProfile_mapVariable {previous : Option DeclId} :
    (declaration.mapVariable fun state => { state with previous }).jumpProfile =
      declaration.jumpProfile := by
  cases hentity : declaration.entity <;>
    simp [mapVariable, jumpProfile, canBeSkipped, hasStaticStorage, asVariable?, hentity,
      Variable.hasNontrivialInitializer]

theorem previous?_mapVariable {previous : Option DeclId}
    (hvariable : declaration.asVariable?.isSome = true) :
    (declaration.mapVariable fun state => { state with previous }).previous? = previous := by
  cases hentity : declaration.entity <;>
    simp_all [mapVariable, previous?, asVariable?]

end Declaration

namespace Arena

/-- The error that a jump should have, if the labels of the body are these. -/
def report (arena : Arena) (labels : List Landmark) (jump : Landmark) : Option DeclError :=
  (labels.find? (·.name = jump.name)).bind fun label =>
    arena.jumpError jump.visible label.visible jump.span

def checkBody (arena : Arena) (function : DeclId) (body : Body) :
    Except Fault (List DeclError × Arena) := do
  let walked ← body.walk function {} { arena }
  let (errors, arena) ← walked.arena.resolveJumps function
  return (walked.errors ++ errors, arena)

variable {arena before middle after start : Arena} {function id : DeclId} {body : Body}
  {declaration : Declaration} {state : Func} {declared more visible : List DeclId}
  {labels jumps : List Landmark} {jump landmark : Landmark} {errors : List DeclError} {walk : Walk}
  {cursor : ScopeCursor}

/-! ## Changes on the way -/

theorem asFunc?_eq_map : arena.asFunc? id = (arena.get id).map Declaration.asFunc? := by
  cases hget : arena.get id <;> simp [asFunc?, hget]

theorem exists_modifyFunc_of_asFunc? (hstate : arena.asFunc? function = .ok (some state))
    (change : Func → Func) : ∃ after, arena.modifyFunc function change = .ok after := by
  obtain ⟨declaration, hget, -⟩ := bind_eq_ok_iff.mp hstate
  exact exists_modifyFunc change (lt_of_get hget)

def KeepsChains (declared : List DeclId) (before after : Arena) : Prop :=
  ∀ id ∈ declared, (after.get id).map Declaration.previous? =
    (before.get id).map Declaration.previous?

theorem KeepsChains.trans (hfirst : KeepsChains declared before middle)
    (hsecond : KeepsChains declared middle after) : KeepsChains declared before after :=
  fun id hid => (hsecond id hid).trans (hfirst id hid)

theorem KeepsChains.left (hkeeps : KeepsChains (declared ++ more) before after) :
    KeepsChains declared before after :=
  fun id hid => hkeeps id (List.mem_append_left more hid)

theorem keepsChains_of_modifyFunc {change : Func → Func}
    (hmodify : before.modifyFunc function change = .ok after) : KeepsChains declared before after :=
  fun id _ => map_get_of_change (get_of_modifyFunc hmodify)
    (fun _ => Declaration.previous?_mapFunc) id

/-- The variables are all those in scope where the first one is the last that was declared. -/
structure Sees (arena : Arena) (declared visible : List DeclId) : Prop where
  scope : Scope arena [] visible.head? visible
  subset : ∀ id ∈ visible, id ∈ declared

/-- What can be seen from a place stays the same. -/
theorem Sees.keep (hsees : Sees before declared visible)
    (hkeeps : KeepsChains declared before after) : Sees after declared visible :=
  ⟨hsees.scope.congr fun id hid => hkeeps id (hsees.subset id hid), hsees.subset⟩

theorem Sees.append (hsees : Sees arena declared visible) (more : List DeclId) :
    Sees arena (declared ++ more) visible :=
  ⟨hsees.scope, fun id hid => List.mem_append_left more (hsees.subset id hid)⟩

/-- A variable that comes after all that can be seen is seen together with them. -/
theorem Sees.cons (hsees : Sees arena declared visible) (hget : arena.get id = .ok declaration)
    (hprevious : declaration.previous? = visible.head?) (hfresh : id ∉ declared) :
    Sees arena (declared ++ [id]) (id :: visible) where
  scope := by
    have hnew : id ∉ visible := fun hmem => hfresh (hsees.subset id hmem)
    refine .step List.not_mem_nil hget ?_
    rw [hprevious]
    apply hsees.scope.widen
    · simp
    · intro other hother hsame
      rw [List.mem_singleton.mp hsame] at hother
      exact hnew hother
  subset := by
    rw [List.forall_mem_cons]
    exact ⟨by simp, fun other hother => List.mem_append_left _ (hsees.subset other hother)⟩

/-- A new variable comes after all that can be seen, and nothing else changes its place. -/
theorem exists_declareVariable (hsees : Sees before declared visible)
    (hcursor : cursor.last = visible.head?) (hvariable : before.IsVariable id)
    (hfresh : id ∉ declared) :
    ∃ after, before.declareVariable cursor id = .ok (⟨some id⟩, after) ∧
      (∀ other, (after.get other).map Declaration.jumpProfile =
        (before.get other).map Declaration.jumpProfile) ∧
      (∀ other, after.asFunc? other = before.asFunc? other) ∧ KeepsChains declared before after ∧
      Sees after (declared ++ [id]) (id :: visible) := by
  obtain ⟨declaration, hread, hsome⟩ := hvariable
  obtain ⟨state, hstate⟩ := Option.isSome_iff_exists.mp hsome
  obtain ⟨after, hmodify⟩ : ∃ after, before.modifyVariable id
      (fun state => { state with previous := cursor.last }) = .ok after :=
    exists_modify _ (lt_of_get hread)
  have hget := get_of_modify hmodify
  have hkeeps : KeepsChains declared before after := by
    intro other hother
    have hne : other ≠ id := by
      rintro rfl
      exact hfresh hother
    rw [hget, if_neg hne]
  have hself : after.get id = .ok (declaration.mapVariable fun state =>
      { state with previous := cursor.last }) := by
    rw [hget, if_pos rfl, hread, ok_map]
  refine ⟨after, by simp [declareVariable, asVariable?, hread, hstate, hmodify], ?_, ?_, hkeeps, ?_⟩
  · exact map_get_of_change hget fun _ => Declaration.jumpProfile_mapVariable
  · intro other
    rw [asFunc?_eq_map, asFunc?_eq_map]
    exact map_get_of_change hget (fun _ => Declaration.asFunc?_mapVariable) other
  · apply (hsees.keep hkeeps).cons hself _ hfresh
    rw [Declaration.previous?_mapVariable hsome, hcursor]

/-! ## What is known about jumps -/

/-- Later labels make no difference to a jump to an earlier one. -/
theorem report_append (hlabel : ∃ label ∈ labels, label.name = jump.name)
    (others : List Landmark) : start.report (labels ++ others) jump = start.report labels jump := by
  have hsome : (labels.find? (·.name = jump.name)).isSome = true := by simpa using hlabel
  obtain ⟨found, hfound⟩ := Option.isSome_iff_exists.mp hsome
  rw [report, report, List.find?_append, hfound, Option.some_or]

/-- The state of a function and the errors so far stand for these labels and jumps: every jump is
checked or waits, the labels of the checked ones are declared, and the errors are theirs. -/
structure JumpLog (start : Arena) (labels jumps : List Landmark) (state : Func)
    (errors : List DeclError) : Prop where
  find_eq : ∀ name, state.findLabel? name =
    (labels.find? (·.name = name)).map Landmark.place
  exists_split : ∃ checked waiting : List Landmark,
    state.pendingJumps = waiting.map Landmark.pending ∧
    (checked ++ waiting).Perm jumps ∧
    (∀ jump ∈ checked, ∃ label ∈ labels, label.name = jump.name) ∧
    errors = checked.filterMap (start.report labels)

namespace JumpLog

theorem empty (hlabels : state.labels = .empty) (hpending : state.pendingJumps = []) :
    JumpLog start [] [] state [] where
  find_eq name := by simp [Func.findLabel?, hlabels]
  exists_split := ⟨[], [], by simp [hpending], .nil, by simp, rfl⟩

/-- A label of a new name. -/
theorem label (hlog : JumpLog start labels jumps state errors)
    (hnew : ∀ other ∈ labels, other.name ≠ landmark.name) :
    JumpLog start (labels ++ [landmark]) jumps
      (state.declareLabel landmark.name landmark.place) errors where
  find_eq name := by
    rw [Func.findLabel?, Func.declareLabel, NameTable.find?_insert, List.find?_append,
      ← Func.findLabel?, hlog.find_eq]
    by_cases hname : name = landmark.name
    · subst name
      have hnone : labels.find? (·.name = landmark.name) = none := by simpa using hnew
      simp [hnone]
    · simp [hname, Ne.symm hname]
  exists_split := by
    obtain ⟨checked, waiting, hwaiting, hperm, hlabels, herrors⟩ := hlog.exists_split
    refine ⟨checked, waiting, hwaiting, hperm, fun jump hjump => ?_, ?_⟩
    · obtain ⟨found, hfound, hname⟩ := hlabels jump hjump
      exact ⟨found, List.mem_append_left _ hfound, hname⟩
    · rw [herrors]
      exact List.filterMap_congr fun jump hjump => (report_append (hlabels jump hjump) _).symm

/-- A jump whose label is declared is checked. -/
theorem check (hlog : JumpLog start labels jumps state errors)
    (hlabel : ∃ label ∈ labels, label.name = jump.name) :
    JumpLog start labels (jumps ++ [jump]) state (errors ++ (start.report labels jump).toList) where
  find_eq := hlog.find_eq
  exists_split := by
    obtain ⟨checked, waiting, hwaiting, hperm, hlabels, herrors⟩ := hlog.exists_split
    refine ⟨checked ++ [jump], waiting, hwaiting, ?_, ?_, ?_⟩
    · calc
        (checked ++ [jump] ++ waiting).Perm (checked ++ waiting ++ [jump]) := by
          rw [List.append_assoc, List.append_assoc]
          exact List.perm_append_comm.append_left checked
        _ |>.Perm (jumps ++ [jump]) := hperm.append_right [jump]
    · exact List.forall_mem_append.mpr ⟨hlabels, by simpa using hlabel⟩
    · rw [herrors, List.filterMap_append]
      cases hreport : start.report labels jump <;> simp [hreport]

/-- A jump whose label is not declared waits. -/
theorem wait (hlog : JumpLog start labels jumps state errors) :
    JumpLog start labels (jumps ++ [jump])
      { state with pendingJumps := state.pendingJumps ++ [jump.pending] } errors where
  find_eq := hlog.find_eq
  exists_split := by
    obtain ⟨checked, waiting, hwaiting, hperm, hlabels, herrors⟩ := hlog.exists_split
    refine ⟨checked, waiting ++ [jump], by simp [hwaiting], ?_, hlabels, herrors⟩
    rw [← List.append_assoc]
    exact hperm.append_right [jump]

end JumpLog

end Arena

end Declarations
