import Declarations.Proofs.Inference.Record
import Declarations.Proofs.Overload.Node

/-!
# What a tour shows

A tour of an overload set shows the same functions whatever is done with them, so that everything
that goes through an overload set goes through one list.  The number of steps of a tour is enough: a
step takes a node off the pending ones, and only a node that is entered for the first time puts
others there, two at most.  At the end it has entered what can be reached from the start, because
what an entered node leads to was entered as well or is pending.
-/

namespace Declarations

open Relation

def Stop.handles : Stop → List DeclId
  | .nothing => []
  | .function shown => [shown]
  | .entrance target => [target]

namespace Declaration

variable {declaration : Declaration}

/-- The next entry of a chain is one of the handles. -/
theorem mem_handles_of_next? {next : DeclId} (hnext : declaration.next? = some next) :
    next ∈ declaration.handles := by
  unfold next? at hnext
  split at hnext <;> simp_all [handles, Entity.handles, Func.handles]

/-- The next entry of a chain is no part of the record. -/
@[simp]
theorem next?_keep {kept : Attributes} : (declaration.keep kept).next? = declaration.next? := by
  cases hfunc : declaration.asFunc? with
  | none => rw [keep_of_asFunc?_eq_none hfunc]
  | some state =>
    rw [keep_of_asFunc? hfunc]
    simp only [next?, entity_of_asFunc? hfunc]
    rfl

end Declaration

/-- A tour that stays in an arena and has entered no node twice. -/
structure Tour.InRange (tour : Tour) (arena : Arena) : Prop where
  pending_lt : ∀ node ∈ tour.pending, node.number < arena.size
  entered_lt : ∀ node ∈ tour.entered, node.number < arena.size
  entered_nodup : tour.entered.Nodup

/-- More steps than a tour that is in range can still take: one for each pending node, and two for
each node that was not entered. -/
def Tour.budget (tour : Tour) (arena : Arena) : Nat :=
  2 * (arena.size - tour.entered.length) + tour.pending.length

def showEach {σ : Type} (visit : σ → DeclId → Except Fault (ForInStep σ)) :
    List DeclId → σ → Except Fault (ForInStep σ)
  | [], seen => .ok (.yield seen)
  | function :: functions, seen => do
      match ← visit seen function with
      | .done result => return .done result
      | .yield result => showEach visit functions result

/-- A visit that is never done goes through all functions. -/
theorem showEach_yield {σ : Type} {act : σ → DeclId → Except Fault σ} (functions : List DeclId)
    (seen : σ) :
    showEach (fun seen function => do return .yield (← act seen function)) functions seen =
      (functions.foldlM act seen).map .yield := by
  induction functions generalizing seen with
  | nil => rfl
  | cons function functions ih =>
    rw [List.foldlM_cons, showEach]
    cases act seen function with
    | error fault => rfl
    | ok result => exact ih result

namespace Arena

variable {arena : Arena} {id : DeclId} {declaration : Declaration}

/-- A stop at a declaration of a closed arena stays in the arena. -/
theorem Closed.stopAt (hclosed : arena.Closed) (hget : arena.get id = .ok declaration) :
    ∃ stop, arena.stopAt id declaration = .ok stop ∧
      ∀ handle ∈ stop.handles, handle.number < arena.size := by
  have hid : id.number < arena.size := lt_of_get hget
  have hbound : ∀ handle ∈ declaration.entity.handles, handle.number < arena.size :=
    fun handle hhandle => hclosed.lt_of_mem_handles hget (List.mem_append_right _ hhandle)
  obtain ⟨function, halias, hfunction⟩ := hclosed.aliasedFunction hid
  cases hentity : declaration.entity with
  | var state => exact ⟨.nothing, by simp [Arena.stopAt, hentity], by simp [Stop.handles]⟩
  | tuple state => exact ⟨.nothing, by simp [Arena.stopAt, hentity], by simp [Stop.handles]⟩
  | aliasing state =>
    rw [hentity] at hbound
    cases htarget : state.target with
    | none =>
      exact ⟨.nothing, by simp [Arena.stopAt, hentity, htarget], by simp [Stop.handles]⟩
    | some target =>
      refine ⟨.entrance target, by simp [Arena.stopAt, hentity, htarget], ?_⟩
      simpa [Stop.handles] using hbound target (by simp [Entity.handles, htarget])
  | anchor state =>
    rw [hentity] at hbound
    cases htarget : state.target with
    | none =>
      exact ⟨.nothing, by simp [Arena.stopAt, hentity, htarget], by simp [Stop.handles]⟩
    | some target =>
      have hlt : target.number < arena.size := hbound target (by simp [Entity.handles, htarget])
      obtain ⟨named, hnamed⟩ := exists_get hlt
      obtain ⟨resolved, hresolved, hresolvedlt⟩ := hclosed.aliasedFunction hlt
      by_cases hset : state.forwardsSet = true
      · exact ⟨.entrance target, by simp [Arena.stopAt, hentity, htarget, hset],
          by simpa [Stop.handles] using hlt⟩
      · by_cases hfunc : named.isFunction = true
        · exact ⟨.function resolved,
            by simp [Arena.stopAt, hentity, htarget, hset, hnamed, hfunc, hresolved],
            by simpa [Stop.handles] using hresolvedlt⟩
        · exact ⟨.entrance target,
            by simp [Arena.stopAt, hentity, htarget, hset, hnamed, hfunc],
            by simpa [Stop.handles] using hlt⟩
  | func state =>
    rw [hentity] at hbound
    cases hrole : state.role with
    | aliasTo target forwardsSet =>
      cases forwardsSet with
      | true =>
        refine ⟨.entrance target, by simp [Arena.stopAt, hentity, hrole], ?_⟩
        simpa [Stop.handles] using
          hbound target (by simp [Entity.handles, Func.handles, hrole, FuncRole.handles])
      | false =>
        exact ⟨.function function, by simp [Arena.stopAt, hentity, hrole, halias],
          by simpa [Stop.handles] using hfunction⟩
    | _ =>
      exact ⟨.function id, by simp [Arena.stopAt, hentity, hrole],
        by simpa [Stop.handles] using hid⟩

/-- What a node of a closed arena leads to is in the arena. -/
theorem Closed.lt_of_goesTo (hclosed : arena.Closed) {target : DeclId}
    (hgoes : arena.GoesTo id target) : target.number < arena.size := by
  obtain ⟨declaration, hget⟩ : ∃ declaration, arena.get id = .ok declaration := by
    cases hgoes <;> exact ⟨_, ‹_›⟩
  obtain ⟨stop, hstop, hhandles⟩ := hclosed.stopAt hget
  obtain hnext | rfl := (goesTo_iff hclosed hget hstop).mp hgoes
  · exact hclosed.lt_of_mem_handles hget (Declaration.mem_handles_of_next? hnext)
  · exact hhandles target (by simp [Stop.handles])

/-! ## The functions that are shown -/

/-- The functions that the rest of a tour shows, whatever is done with them. -/
def Shows (arena : Arena) (steps : Nat) (tour : Tour) (functions : List DeclId) : Prop :=
  ∀ {σ : Type} (visit : σ → DeclId → Except Fault (ForInStep σ)) (seen : σ),
    arena.continueTour visit steps tour seen = showEach visit functions seen

end Arena

/-- The tour after a node was entered, with the nodes that are pending then, and with the function
that was shown at the node. -/
def Tour.enter (tour : Tour) (id : DeclId) (pending : List DeclId) (fresh : Option DeclId) :
    Tour where
  pending
  entered := id :: tour.entered
  shown := fresh.toList ++ tour.shown

@[simp]
theorem Tour.pending_enter (tour : Tour) (id : DeclId) (pending : List DeclId)
    (fresh : Option DeclId) : (tour.enter id pending fresh).pending = pending :=
  rfl

@[simp]
theorem Tour.entered_enter (tour : Tour) (id : DeclId) (pending : List DeclId)
    (fresh : Option DeclId) : (tour.enter id pending fresh).entered = id :: tour.entered :=
  rfl

@[simp]
theorem Tour.shown_enter (tour : Tour) (id : DeclId) (pending : List DeclId)
    (fresh : Option DeclId) :
    (tour.enter id pending fresh).shown = fresh.toList ++ tour.shown :=
  rfl

/-- How far a tour from `start` has come.  What an entered node leads to was entered or is pending,
and what the entered nodes offer was shown. -/
structure Tour.Covers (tour : Tour) (arena : Arena) (start : DeclId) : Prop where
  start_mem : start ∈ tour.pending ∨ start ∈ tour.entered
  pending_reached : ∀ node ∈ tour.pending, ReflTransGen arena.GoesTo start node
  entered_reached : ∀ node ∈ tour.entered, ReflTransGen arena.GoesTo start node
  onward : ∀ node ∈ tour.entered, ∀ target, arena.GoesTo node target →
    target ∈ tour.pending ∨ target ∈ tour.entered
  shown_iff : ∀ function, function ∈ tour.shown ↔ ∃ node ∈ tour.entered,
    arena.Offers node function

namespace Tour

variable {arena : Arena} {tour onward : Tour} {start id : DeclId} {later : List DeclId}

/-- A node that was entered can be passed over. -/
theorem Covers.skip (hcovers : tour.Covers arena start) (hpending : tour.pending = id :: later)
    (hentered : id ∈ tour.entered) : Tour.Covers { tour with pending := later } arena start := by
  have hkept : ∀ {node}, node ∈ tour.pending ∨ node ∈ tour.entered →
      node ∈ later ∨ node ∈ tour.entered := by
    intro node hnode
    rw [hpending, List.mem_cons, or_assoc] at hnode
    obtain rfl | hnode := hnode
    · exact .inr hentered
    · exact hnode
  exact {
    start_mem := hkept hcovers.start_mem
    pending_reached := fun node hnode => hcovers.pending_reached node (by simp [hpending, hnode])
    entered_reached := hcovers.entered_reached
    onward := fun node hnode target hgoes => hkept (hcovers.onward node hnode target hgoes)
    shown_iff := hcovers.shown_iff }

/-- A node is entered when what it leads to is made pending and what it offers is shown. -/
theorem Covers.enter (hcovers : tour.Covers arena start) (hpending : tour.pending = id :: later)
    {ahead : List DeclId} {fresh : Option DeclId}
    (hgoes : ∀ target, target ∈ ahead ↔ arena.GoesTo id target)
    (hoffers : ∀ function, function ∈ fresh ∨ function ∈ tour.shown ↔
      arena.Offers id function ∨ function ∈ tour.shown) :
    (tour.enter id (ahead ++ later) fresh).Covers arena start := by
  have hreached : ReflTransGen arena.GoesTo start id :=
    hcovers.pending_reached id (by simp [hpending])
  have hkept : ∀ {node}, node ∈ tour.pending ∨ node ∈ tour.entered →
      node ∈ ahead ++ later ∨ node ∈ id :: tour.entered := by
    intro node hnode
    rw [hpending, List.mem_cons, or_assoc] at hnode
    rw [List.mem_append, List.mem_cons]
    obtain rfl | hlater | hnode := hnode
    · exact .inr (.inl rfl)
    · exact .inl (.inr hlater)
    · exact .inr (.inr hnode)
  constructor
  case start_mem => exact hkept hcovers.start_mem
  case pending_reached =>
    intro node hnode
    obtain hahead | hlater := List.mem_append.mp hnode
    · exact hreached.tail ((hgoes node).mp hahead)
    · exact hcovers.pending_reached node (by simp [hpending, hlater])
  case entered_reached =>
    intro node hnode
    obtain rfl | hnode := List.mem_cons.mp hnode
    · exact hreached
    · exact hcovers.entered_reached node hnode
  case onward =>
    intro node hnode target hleads
    obtain rfl | hnode := List.mem_cons.mp hnode
    · exact .inl (List.mem_append_left later ((hgoes target).mpr hleads))
    · exact hkept (hcovers.onward node hnode target hleads)
  case shown_iff =>
    intro function
    rw [shown_enter, List.mem_append, Option.mem_toList, ← Option.mem_def, hoffers,
      hcovers.shown_iff, entered_enter, List.exists_mem_cons_iff]

/-- When nothing is pending, the tour has entered what can be reached. -/
theorem Covers.mem_entered_iff (hcovers : tour.Covers arena start) (hpending : tour.pending = [])
    {node : DeclId} : node ∈ tour.entered ↔ ReflTransGen arena.GoesTo start node := by
  refine ⟨hcovers.entered_reached node, fun hreached => ?_⟩
  induction hreached with
  | refl => simpa [hpending] using hcovers.start_mem
  | tail _ hgoes ih => simpa [hpending] using hcovers.onward _ ih _ hgoes

theorem InRange.skip (hrange : tour.InRange arena) (hpending : tour.pending = id :: later) :
    Tour.InRange { tour with pending := later } arena where
  pending_lt node hnode := hrange.pending_lt node (by simp [hpending, hnode])
  entered_lt := hrange.entered_lt
  entered_nodup := hrange.entered_nodup

theorem InRange.enter (hrange : tour.InRange arena) (hpending : tour.pending = id :: later)
    (hentered : id ∉ tour.entered) {pending : List DeclId} (fresh : Option DeclId)
    (hlt : ∀ node ∈ pending, node.number < arena.size) :
    (tour.enter id pending fresh).InRange arena where
  pending_lt := hlt
  entered_lt := List.forall_mem_cons.mpr
    ⟨hrange.pending_lt id (by simp [hpending]), hrange.entered_lt⟩
  entered_nodup := List.nodup_cons.mpr ⟨hentered, hrange.entered_nodup⟩

/-- A node that is entered leaves a step, also when it makes two others pending. -/
theorem InRange.budget_enter_lt (hrange : tour.InRange arena)
    (hpending : tour.pending = id :: later) (hentered : id ∉ tour.entered) {ahead : List DeclId}
    (fresh : Option DeclId) (hlength : ahead.length ≤ 2) :
    (tour.enter id (ahead ++ later) fresh).budget arena < tour.budget arena := by
  have hnodup : (id :: tour.entered).Nodup := List.nodup_cons.mpr ⟨hentered, hrange.entered_nodup⟩
  have hlt : id.number < arena.size := hrange.pending_lt id (by simp [hpending])
  have hroom := DeclId.length_le_of_nodup hnodup (by simpa using ⟨hlt, hrange.entered_lt⟩)
  simp only [budget, pending_enter, entered_enter, hpending, List.length_append,
    List.length_cons] at *
  omega

end Tour

namespace Arena

variable {arena : Arena}

/-- What one step of a tour does: it leaves fewer steps to take, and shows one function at most. -/
structure Advances (arena : Arena) (tour onward : Tour) (fresh : Option DeclId) : Prop where
  inRange : onward.InRange arena
  budget_lt : onward.budget arena < tour.budget arena
  shown_eq : onward.shown = fresh.toList ++ tour.shown
  notMem_shown : ∀ function ∈ fresh, function ∉ tour.shown
  covers : ∀ start, tour.Covers arena start → onward.Covers arena start
  shows : ∀ {steps : Nat} {functions : List DeclId}, arena.Shows steps onward functions →
    arena.Shows (steps + 1) tour (fresh.toList ++ functions)

/-- A step that shows nothing. -/
theorem shows_of_continue {tour onward : Tour} {steps : Nat} {functions : List DeclId}
    (hcontinue : ∀ {σ : Type} (visit : σ → DeclId → Except Fault (ForInStep σ)) (seen : σ),
      arena.continueTour visit (steps + 1) tour seen = arena.continueTour visit steps onward seen)
    (hshows : arena.Shows steps onward functions) : arena.Shows (steps + 1) tour functions := by
  intro σ visit seen
  rw [hcontinue]
  exact hshows visit seen

/-- A tour without pending nodes shows nothing more. -/
theorem shows_of_pending_eq_nil {tour : Tour} (hpending : tour.pending = []) (steps : Nat) :
    arena.Shows (steps + 1) tour [] := by
  intro σ visit seen
  simp [continueTour, hpending, showEach]

/-- A node that was entered is passed over. -/
theorem advances_of_entered {tour : Tour} {id : DeclId} {later : List DeclId}
    (hrange : tour.InRange arena) (hpending : tour.pending = id :: later)
    (hentered : id ∈ tour.entered) :
    arena.Advances tour { tour with pending := later } none where
  inRange := hrange.skip hpending
  budget_lt := by simp [Tour.budget, hpending]
  shown_eq := rfl
  notMem_shown := by simp
  covers start hcovers := hcovers.skip hpending hentered
  shows := shows_of_continue fun visit seen => by
    simp only [continueTour, hpending, hentered, if_true]

/-- A node is entered when it makes pending what it leads to, and shows what is new of what it
offers. -/
theorem Closed.advances_of_enter (hclosed : arena.Closed) {tour : Tour} {id : DeclId}
    {later ahead : List DeclId} {fresh : Option DeclId} (hrange : tour.InRange arena)
    (hpending : tour.pending = id :: later) (hentered : id ∉ tour.entered)
    (hlength : ahead.length ≤ 2) (hgoes : ∀ target, target ∈ ahead ↔ arena.GoesTo id target)
    (hfresh : ∀ function ∈ fresh, function ∉ tour.shown)
    (hoffers : ∀ function, function ∈ fresh ∨ function ∈ tour.shown ↔
      arena.Offers id function ∨ function ∈ tour.shown)
    (hshows : ∀ {steps : Nat} {functions : List DeclId},
      arena.Shows steps (tour.enter id (ahead ++ later) fresh) functions →
        arena.Shows (steps + 1) tour (fresh.toList ++ functions)) :
    arena.Advances tour (tour.enter id (ahead ++ later) fresh) fresh where
  inRange := hrange.enter hpending hentered fresh <| List.forall_mem_append.mpr
    ⟨fun target htarget => hclosed.lt_of_goesTo ((hgoes target).mp htarget),
      fun node hnode => hrange.pending_lt node (by simp [hpending, hnode])⟩
  budget_lt := hrange.budget_enter_lt hpending hentered fresh hlength
  shown_eq := rfl
  notMem_shown := hfresh
  covers start hcovers := hcovers.enter hpending hgoes hoffers
  shows := hshows

/-- An entrance to a set makes the first node of the set pending. -/
theorem Closed.advances_of_entrance (hclosed : arena.Closed) {tour : Tour} {id target : DeclId}
    {declaration : Declaration} {later : List DeclId} (hget : arena.get id = .ok declaration)
    (hstop : arena.stopAt id declaration = .ok (.entrance target)) (hrange : tour.InRange arena)
    (hpending : tour.pending = id :: later) (hentered : id ∉ tour.entered) :
    arena.Advances tour (tour.enter id (target :: declaration.next?.toList ++ later) none)
      none := by
  refine hclosed.advances_of_enter hrange hpending hentered ?_ ?_ (by simp) ?_
    (shows_of_continue fun visit seen => ?_)
  · cases declaration.next? <;> simp
  · intro other
    simp only [goesTo_iff hclosed hget hstop, Stop.entrance.injEq, List.mem_cons,
      Option.mem_toList, eq_comm]
    tauto
  · simp [offers_iff hclosed hget hstop]
  · simp only [continueTour, hpending, hentered, if_false, hget, ok_bind, hstop]
    rfl

/-- What a node adds to a tour that enters it depends on the node alone: the nodes that are made
pending, and a function that is shown unless it was shown before. -/
theorem Closed.exists_enter (hclosed : arena.Closed) {id : DeclId} (hid : id.number < arena.size) :
    ∃ (ahead : List DeclId) (offered : Option DeclId), ∀ {tour : Tour} {later : List DeclId},
      tour.InRange arena → tour.pending = id :: later → id ∉ tour.entered →
        arena.Advances tour
          (tour.enter id (ahead ++ later) (offered.filter fun function => function ∉ tour.shown))
          (offered.filter fun function => function ∉ tour.shown) := by
  obtain ⟨declaration, hget⟩ := exists_get hid
  obtain ⟨stop, hstop, hhandles⟩ := hclosed.stopAt hget
  have hlength : declaration.next?.toList.length ≤ 2 := by
    cases declaration.next? <;> simp
  have hgoes : ∀ target, arena.GoesTo id target ↔
      declaration.next? = some target ∨ stop = .entrance target :=
    fun _ => goesTo_iff hclosed hget hstop
  have hoffers : ∀ function, arena.Offers id function ↔
      stop = .function function ∧ arena.IsFunction function :=
    fun _ => offers_iff hclosed hget hstop
  cases stop with
  | nothing =>
    refine ⟨declaration.next?.toList, none, fun hrange hpending hentered => ?_⟩
    refine hclosed.advances_of_enter hrange hpending hentered hlength (by simp [hgoes]) (by simp)
      (by simp [hoffers]) (shows_of_continue fun visit seen => ?_)
    simp only [continueTour, hpending, hentered, if_false, hget, ok_bind, hstop]
    rfl
  | entrance target =>
    exact ⟨target :: declaration.next?.toList, none, fun hrange hpending hentered =>
      hclosed.advances_of_entrance hget hstop hrange hpending hentered⟩
  | function function =>
    obtain ⟨shown, hshown⟩ := exists_get (hhandles function (by simp [Stop.handles]))
    have hisFunction : arena.IsFunction function ↔ shown.isFunction = true :=
      isFunction_iff_of_get hshown
    refine ⟨declaration.next?.toList, (some function).filter fun _ => shown.isFunction,
      fun {tour later} hrange hpending hentered => ?_⟩
    by_cases hskip : (!shown.isFunction || decide (function ∈ tour.shown)) = true
    · have hfresh : ((some function).filter fun _ => shown.isFunction).filter
          (fun function => function ∉ tour.shown) = none := by
        cases hfunc : shown.isFunction <;> simp_all
      rw [hfresh]
      refine hclosed.advances_of_enter hrange hpending hentered hlength (by simp [hgoes])
        (by simp) ?_ (shows_of_continue fun visit seen => ?_)
      · intro other
        rw [hoffers, Stop.function.injEq]
        refine ⟨fun hmem => .inr (hmem.resolve_left (by simp)), fun hmem => .inr ?_⟩
        obtain ⟨rfl, hother⟩ | hmem := hmem
        · simpa [hisFunction.mp hother] using hskip
        · exact hmem
      · simp only [continueTour, hpending, hentered, if_false, hget, ok_bind, hstop, hshown,
          hskip, if_true]
        rfl
    · obtain ⟨hfunc, hnew⟩ : shown.isFunction = true ∧ function ∉ tour.shown := by
        simpa using hskip
      have hfresh : ((some function).filter fun _ => shown.isFunction).filter
          (fun function => function ∉ tour.shown) = some function := by
        simp [hfunc, hnew]
      rw [hfresh]
      refine hclosed.advances_of_enter hrange hpending hentered hlength (by simp [hgoes])
        (by simpa using hnew) ?_ ?_
      · intro other
        rw [hoffers, Stop.function.injEq, Option.mem_def, Option.some.injEq]
        refine or_congr_left (and_iff_left_of_imp ?_).symm
        rintro rfl
        exact hisFunction.mpr hfunc
      · intro steps functions hshows σ visit seen
        simp only [continueTour, hpending, hentered, if_false, hget, ok_bind, hstop, hshown,
          hskip, Option.toList_some, List.singleton_append, showEach]
        cases visit seen function with
        | error fault => rfl
        | ok step =>
          cases step with
          | done result => rfl
          | yield result => exact hshows visit result

/-- A tour that has enough steps left comes to an end, and has shown some more functions by then,
each of them once. -/
theorem Closed.exists_shown (hclosed : arena.Closed) (steps : Nat) {tour : Tour}
    (hrange : tour.InRange arena) (hsteps : tour.budget arena < steps) :
    ∃ (functions : List DeclId) (last : Tour), arena.Shows steps tour functions ∧ functions.Nodup ∧
      (∀ function ∈ functions, function ∉ tour.shown) ∧ last.pending = [] ∧
      last.shown = functions.reverse ++ tour.shown ∧
      ∀ start, tour.Covers arena start → last.Covers arena start := by
  induction steps generalizing tour with
  | zero => contradiction
  | succ steps ih =>
    cases hpending : tour.pending with
    | nil =>
      exact ⟨[], tour, shows_of_pending_eq_nil hpending steps, by simp, by simp, hpending, rfl,
        fun _ hcovers => hcovers⟩
    | cons id later =>
      obtain ⟨onward, fresh, hadvances⟩ : ∃ onward fresh, arena.Advances tour onward fresh := by
        by_cases hentered : id ∈ tour.entered
        · exact ⟨_, none, advances_of_entered hrange hpending hentered⟩
        · obtain ⟨ahead, offered, henter⟩ :=
            hclosed.exists_enter (hrange.pending_lt id (by simp [hpending]))
          exact ⟨_, _, henter hrange hpending hentered⟩
      have hbudget := hadvances.budget_lt
      obtain ⟨functions, last, hshows, hnodup, hfunctions, hlast, hshown, hcovers⟩ :=
        ih hadvances.inRange (by omega)
      rw [hadvances.shown_eq] at hfunctions hshown
      refine ⟨fresh.toList ++ functions, last, hadvances.shows hshows, ?_, ?_, hlast, ?_,
        fun start hstart => hcovers start (hadvances.covers start hstart)⟩
      · have hdisjoint : ∀ function ∈ fresh, function ∉ functions := by
          intro function hfresh hmem
          exact hfunctions function hmem (by simp [Option.mem_toList.mpr hfresh])
        cases fresh with
        | none => exact hnodup
        | some function => exact List.nodup_cons.mpr ⟨hdisjoint function rfl, hnodup⟩
      · intro function hmem
        rcases List.mem_append.mp hmem with hfresh | hmem
        · exact hadvances.notMem_shown function (Option.mem_toList.mp hfresh)
        · exact fun hshown => hfunctions function hmem (List.mem_append_right _ hshown)
      · rw [hshown]
        cases fresh <;> simp

/-- Everything that goes through an overload set goes through the list of its functions.  These are
what the nodes that can be reached offer. -/
theorem Closed.exists_candidates (hclosed : arena.Closed) {start : DeclId}
    (hstart : start.number < arena.size) :
    ∃ functions, arena.candidates start = .ok functions ∧ functions.Nodup ∧
      (∀ function, function ∈ functions ↔
        ∃ node, ReflTransGen arena.GoesTo start node ∧ arena.Offers node function) ∧
      ∀ {σ : Type} (visit : σ → DeclId → Except Fault (ForInStep σ)) (seen : σ),
        arena.tour start seen visit = showEach visit functions seen := by
  have hrange : Tour.InRange { pending := [start] } arena :=
    ⟨by simpa using hstart, by simp, List.nodup_nil⟩
  have hcovers : Tour.Covers { pending := [start] } arena start :=
    ⟨by simp, by simp [ReflTransGen.refl], by simp, by simp, by simp⟩
  obtain ⟨functions, last, hshows, hnodup, -, hpending, hshown, hlast⟩ :=
    hclosed.exists_shown (2 * arena.size + 2) hrange (by simp [Tour.budget])
  have hoffered : ∀ function, function ∈ functions ↔
      ∃ node, ReflTransGen arena.GoesTo start node ∧ arena.Offers node function := by
    intro function
    have hmem : function ∈ functions ↔ function ∈ last.shown := by simp [hshown]
    simp only [hmem, (hlast start hcovers).shown_iff,
      (hlast start hcovers).mem_entered_iff hpending]
  refine ⟨functions, ?_, hnodup, hoffered, hshows⟩
  have hcollect : functions.foldlM (fun found function => .ok (found ++ [function])) [] =
      (.ok functions : Except Fault (List DeclId)) := by
    simp only [← pure_eq_ok, List.foldlM_pure, List.foldl_append_eq_append, List.nil_append]
    rw [← List.flatMap_def, List.flatMap_singleton']
  have htour : arena.tour start [] (fun found function => .ok (.yield (found ++ [function]))) =
      .ok (.yield functions) := by
    rw [tour, hshows]
    exact (showEach_yield functions []).trans (by rw [hcollect, ok_map])
  rw [candidates, htour]
  rfl

/-! ## Tours and the record of attributes -/

variable {kept : Attributes}

/-- What a node adds to a tour is no part of the record. -/
theorem stopAt_keep {id : DeclId} {declaration : Declaration} :
    (arena.keep kept).stopAt id (declaration.keep kept) = arena.stopAt id declaration := by
  cases hfunc : declaration.asFunc? with
  | none =>
    rw [Declaration.keep_of_asFunc?_eq_none hfunc]
    simp only [stopAt, aliasedFunction_keep, get_keep]
    split
    · rfl
    · split
      · rfl
      · split
        · rfl
        · next target _ _ =>
          cases arena.get target <;> simp
    · rfl
    · rfl
    · rfl
  | some state =>
    rw [Declaration.keep_of_asFunc? hfunc]
    simp only [stopAt, aliasedFunction_keep, Declaration.entity_of_asFunc? hfunc]
    rfl

/-- A tour does not look at the record. -/
theorem continueTour_keep {σ : Type} (visit : σ → DeclId → Except Fault (ForInStep σ))
    (steps : Nat) (tour : Tour) (seen : σ) :
    (arena.keep kept).continueTour visit steps tour seen =
      arena.continueTour visit steps tour seen := by
  induction steps generalizing tour seen with
  | zero => rfl
  | succ steps ih =>
    cases hpending : tour.pending with
    | nil => simp [continueTour, hpending]
    | cons id later =>
      by_cases hentered : id ∈ tour.entered
      · simp only [continueTour, hpending, hentered, if_true, ih]
      · simp only [continueTour, hpending, hentered, if_false, get_keep]
        cases hget : arena.get id with
        | error fault => rfl
        | ok declaration =>
          simp only [ok_map, ok_bind, stopAt_keep, Declaration.next?_keep]
          cases arena.stopAt id declaration with
          | error fault => rfl
          | ok stop =>
            cases stop with
            | nothing => exact ih _ _
            | entrance target => exact ih _ _
            | function function =>
              simp only [ok_bind]
              cases arena.get function with
              | error fault => rfl
              | ok shown => simp only [ok_map, ok_bind, Declaration.isFunction_keep, ih]

@[simp]
theorem candidates_keep {start : DeclId} :
    (arena.keep kept).candidates start = arena.candidates start := by
  simp only [candidates, tour, continueTour_keep, size_keep]

end Arena

end Declarations
