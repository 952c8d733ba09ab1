import Declarations.Overload.Resolution
import Declarations.Proofs.Overload.Candidates
import Declarations.Proofs.Overload.Resolution

/-!
# Forwarding nodes

An alias of a symbol, an anchor over a set and a function alias of all overloads stand for another
set.  As long as such a node has no chain of its own, a tour that starts at the node shows the same
functions, in the same order, as one that starts at the set.  The two tours differ in the nodes that
they have entered: the one has entered the forwarding node from the start, and the other one enters
it if the set leads back to it.  It finds then that the first node of the set was entered before,
and goes on as if the forwarding node were not there.
-/

namespace Declarations

/-- Two tours that go on alike, though only the first one needs to have entered the node. -/
structure Tour.AheadBy (node : DeclId) (ahead behind : Tour) : Prop where
  pending_eq : ahead.pending = behind.pending
  shown_eq : ahead.shown = behind.shown
  entered_iff : ∀ id, id ∈ ahead.entered ↔ id = node ∨ id ∈ behind.entered

namespace Tour.AheadBy

variable {node id : DeclId} {ahead behind : Tour} {later : List DeclId}

theorem skip (hahead : AheadBy node ahead behind) (later : List DeclId) :
    AheadBy node { ahead with pending := later } { behind with pending := later } :=
  ⟨rfl, hahead.shown_eq, hahead.entered_iff⟩

/-- Both tours enter a node. -/
theorem enter (hahead : AheadBy node ahead behind) (id : DeclId) (pending : List DeclId)
    (fresh : Option DeclId) :
    AheadBy node (ahead.enter id pending fresh) (behind.enter id pending fresh) where
  pending_eq := rfl
  shown_eq := by rw [shown_enter, shown_enter, hahead.shown_eq]
  entered_iff other := by
    rw [entered_enter, entered_enter, List.mem_cons, List.mem_cons, hahead.entered_iff]
    tauto

/-- The tour that is behind catches up when it enters the node. -/
theorem catchUp (hahead : AheadBy node ahead behind) (pending later : List DeclId) :
    AheadBy node { ahead with pending := later }
      { behind.enter node pending none with pending := later } where
  pending_eq := rfl
  shown_eq := hahead.shown_eq
  entered_iff other := by
    rw [entered_enter, List.mem_cons, hahead.entered_iff]
    tauto

end Tour.AheadBy

namespace Arena

variable {arena : Arena} {node target : DeclId} {declaration : Declaration}
variable {tour middle onward ahead behind : Tour}

/-- The functions that the rest of a tour shows when it has steps enough. -/
def FinallyShows (arena : Arena) (tour : Tour) (functions : List DeclId) : Prop :=
  ∀ steps, tour.budget arena < steps → arena.Shows steps tour functions

theorem finallyShows_of_pending_eq_nil (hpending : tour.pending = []) :
    arena.FinallyShows tour [] := by
  intro steps hsteps
  obtain ⟨fewer, rfl⟩ := Nat.exists_eq_add_one_of_ne_zero (Nat.ne_zero_of_lt hsteps)
  exact shows_of_pending_eq_nil hpending fewer

/-- After some steps a tour goes on as another one, and has shown some functions by then. -/
structure ComesTo (arena : Arena) (tour onward : Tour) (fresh : List DeclId) : Prop where
  inRange : onward.InRange arena
  budget_lt : onward.budget arena < tour.budget arena
  finallyShows : ∀ functions, arena.FinallyShows onward functions →
    arena.FinallyShows tour (fresh ++ functions)

theorem Advances.comesTo {fresh : Option DeclId} (hadvances : arena.Advances tour onward fresh) :
    arena.ComesTo tour onward fresh.toList where
  inRange := hadvances.inRange
  budget_lt := hadvances.budget_lt
  finallyShows functions hshows steps hsteps := by
    obtain ⟨fewer, rfl⟩ := Nat.exists_eq_add_one_of_ne_zero (Nat.ne_zero_of_lt hsteps)
    have hbudget := hadvances.budget_lt
    have honward : arena.Shows fewer onward functions := hshows fewer (by omega)
    intro σ visit seen
    exact hadvances.shows honward visit seen

theorem ComesTo.trans {earlier later : List DeclId} (hfirst : arena.ComesTo tour middle earlier)
    (hsecond : arena.ComesTo middle onward later) :
    arena.ComesTo tour onward (earlier ++ later) where
  inRange := hsecond.inRange
  budget_lt := Nat.lt_trans hsecond.budget_lt hfirst.budget_lt
  finallyShows functions hshows := by
    rw [List.append_assoc]
    exact hfirst.finallyShows _ (hsecond.finallyShows functions hshows)

/-! ## A forwarding node -/

/-- A node without a chain that leads to another one makes just that one pending. -/
theorem Closed.advances_of_forwards (hclosed : arena.Closed)
    (hget : arena.get node = .ok declaration) (hnext : declaration.next? = none)
    (hgoes : arena.GoesTo node target) {later : List DeclId} (hrange : tour.InRange arena)
    (hpending : tour.pending = node :: later) (hentered : node ∉ tour.entered) :
    arena.Advances tour (tour.enter node (target :: later) none) none := by
  obtain ⟨stop, hstop, -⟩ := hclosed.stopAt hget
  obtain hchain | rfl := (goesTo_iff hclosed hget hstop).mp hgoes
  · simp [hnext] at hchain
  · have hadvances := hclosed.advances_of_entrance hget hstop hrange hpending hentered
    rwa [hnext] at hadvances

/-- Both tours enter the next node, or they pass it over.  The one that is behind passes over the
forwarding node in two steps: it enters the node, and finds the first node of the set entered. -/
theorem Closed.exists_step_of_aheadBy (hclosed : arena.Closed)
    (hget : arena.get node = .ok declaration) (hnext : declaration.next? = none)
    (hgoes : arena.GoesTo node target) (hfirst : ahead.InRange arena)
    (hsecond : behind.InRange arena) (hahead : Tour.AheadBy node ahead behind)
    (htarget : target ∈ behind.entered) {id : DeclId} {later : List DeclId}
    (hpending : behind.pending = id :: later) :
    ∃ aheadOnward behindOnward fresh, arena.ComesTo ahead aheadOnward fresh ∧
      arena.ComesTo behind behindOnward fresh ∧ Tour.AheadBy node aheadOnward behindOnward ∧
      target ∈ behindOnward.entered := by
  have hpendingAhead : ahead.pending = id :: later := hahead.pending_eq.trans hpending
  by_cases hentered : id ∈ behind.entered
  · have henteredAhead : id ∈ ahead.entered := (hahead.entered_iff id).mpr (.inr hentered)
    exact ⟨_, _, _, (advances_of_entered hfirst hpendingAhead henteredAhead).comesTo,
      (advances_of_entered hsecond hpending hentered).comesTo, hahead.skip later, htarget⟩
  by_cases hnode : id = node
  · subst id
    have henteredAhead : node ∈ ahead.entered := (hahead.entered_iff node).mpr (.inl rfl)
    have henter := hclosed.advances_of_forwards hget hnext hgoes hsecond hpending hentered
    have hpass := advances_of_entered henter.inRange rfl (List.mem_cons_of_mem node htarget)
    exact ⟨_, _, _, (advances_of_entered hfirst hpendingAhead henteredAhead).comesTo,
      henter.comesTo.trans hpass.comesTo, hahead.catchUp _ later, List.mem_cons_of_mem node htarget⟩
  · have henteredAhead : id ∉ ahead.entered :=
      fun hmem => ((hahead.entered_iff id).mp hmem).elim hnode hentered
    obtain ⟨reached, offered, henter⟩ :=
      hclosed.exists_enter (hsecond.pending_lt id (by simp [hpending]))
    have hadvances := henter hfirst hpendingAhead henteredAhead
    rw [hahead.shown_eq] at hadvances
    exact ⟨_, _, _, hadvances.comesTo, (henter hsecond hpending hentered).comesTo,
      hahead.enter id _ _, List.mem_cons_of_mem id htarget⟩

/-- A tour that is ahead by a forwarding node shows the same functions, once the first node of the
set that is forwarded was entered. -/
theorem Closed.exists_finallyShows_of_aheadBy (hclosed : arena.Closed)
    (hget : arena.get node = .ok declaration) (hnext : declaration.next? = none)
    (hgoes : arena.GoesTo node target) (hfirst : ahead.InRange arena)
    (hsecond : behind.InRange arena) (hahead : Tour.AheadBy node ahead behind)
    (htarget : target ∈ behind.entered) :
    ∃ functions, arena.FinallyShows ahead functions ∧ arena.FinallyShows behind functions := by
  induction hbudget : behind.budget arena using Nat.strongRecOn generalizing ahead behind with
  | ind budget ih =>
    subst hbudget
    cases hpending : behind.pending with
    | nil =>
      exact ⟨[], finallyShows_of_pending_eq_nil (hahead.pending_eq.trans hpending),
        finallyShows_of_pending_eq_nil hpending⟩
    | cons id later =>
      obtain ⟨aheadOnward, behindOnward, fresh, hfirstOn, hsecondOn, hahead, htarget⟩ :=
        hclosed.exists_step_of_aheadBy hget hnext hgoes hfirst hsecond hahead htarget hpending
      obtain ⟨functions, haheadShows, hbehindShows⟩ :=
        ih _ hsecondOn.budget_lt hfirstOn.inRange hsecondOn.inRange hahead htarget rfl
      exact ⟨fresh ++ functions, hfirstOn.finallyShows functions haheadShows,
        hsecondOn.finallyShows functions hbehindShows⟩

/-- A tour from a forwarding node shows what a tour of the set shows. -/
theorem Closed.tour_of_forwards (hclosed : arena.Closed) (hget : arena.get node = .ok declaration)
    (hnext : declaration.next? = none) (hgoes : arena.GoesTo node target) {σ : Type} (seen : σ)
    (visit : σ → DeclId → Except Fault (ForInStep σ)) :
    arena.tour node seen visit = arena.tour target seen visit := by
  by_cases hsame : target = node
  · rw [hsame]
  have hrange : ∀ {start : DeclId}, start.number < arena.size →
      Tour.InRange { pending := [start] } arena :=
    fun hstart => ⟨by simpa using hstart, by simp, List.nodup_nil⟩
  have htarget := hclosed.lt_of_goesTo hgoes
  -- The one tour enters the node and then the set, and the other one the set at once.
  have hnode := hclosed.advances_of_forwards hget hnext hgoes (hrange (lt_of_get hget)) rfl
    List.not_mem_nil
  obtain ⟨reached, offered, henter⟩ := hclosed.exists_enter htarget
  have hahead := henter hnode.inRange rfl (by simpa using hsame)
  have hbehind := henter (hrange htarget) rfl List.not_mem_nil
  obtain ⟨functions, haheadShows, hbehindShows⟩ := hclosed.exists_finallyShows_of_aheadBy hget hnext
    hgoes hahead.inRange hbehind.inRange ⟨rfl, rfl, by simp [or_comm]⟩ List.mem_cons_self
  have hfromNode := (hnode.comesTo.trans hahead.comesTo).finallyShows functions haheadShows
  have hfromTarget := hbehind.comesTo.finallyShows functions hbehindShows
  rw [tour, tour, hfromNode _ (by simp [Tour.budget]), hfromTarget _ (by simp [Tour.budget])]
  rfl

/-- A node that forwards a set and has no chain of its own is transparent: it has the functions of
the set in the same order, and calls come out the same.  Such a node is an alias of a symbol, an
anchor over a set, or another name for all overloads of a function, as no other kind of node leads
to one without a chain. -/
theorem Closed.forwards_transparently (hclosed : arena.Closed)
    (hget : arena.get node = .ok declaration) (hnext : declaration.next? = none)
    (hgoes : arena.GoesTo node target) :
    (∃ functions, arena.candidates node = .ok functions ∧ arena.candidates target = .ok functions) ∧
      ∀ oracle templateArguments object arguments, ∃ resolution,
        arena.resolve oracle node templateArguments object arguments = .ok resolution ∧
          arena.resolve oracle target templateArguments object arguments = .ok resolution := by
  have htarget := hclosed.lt_of_goesTo hgoes
  have hsame : ∀ {σ : Type} (seen : σ) (visit : σ → DeclId → Except Fault (ForInStep σ)),
      arena.tour node seen visit = arena.tour target seen visit :=
    hclosed.tour_of_forwards hget hnext hgoes
  constructor
  · obtain ⟨functions, hcandidates, -⟩ := hclosed.exists_candidates htarget
    exact ⟨functions, by rwa [candidates, hsame], hcandidates⟩
  · intro oracle templateArguments object arguments
    obtain ⟨resolution, hresolution⟩ :=
      hclosed.resolve htarget oracle templateArguments object arguments
    exact ⟨resolution, by rwa [Arena.resolve, hsame], hresolution⟩

/-- The set leads back to the alias that forwards it. -/
theorem Closed.forwards_transparently_selfForwarding :
    selfForwarding.Closed ∧
    selfForwarding.get ⟨1⟩ = .ok (.aliasing .anonymous .synthetic (.toSymbol ⟨0⟩)) ∧
    (Declaration.aliasing .anonymous .synthetic (.toSymbol ⟨0⟩)).next? = none ∧
    selfForwarding.GoesTo ⟨1⟩ ⟨0⟩ ∧ selfForwarding.GoesTo ⟨0⟩ ⟨1⟩ ∧
    (∃ functions, selfForwarding.candidates ⟨1⟩ = .ok functions ∧
      selfForwarding.candidates ⟨0⟩ = .ok functions) ∧
    ∀ oracle templateArguments object arguments, ∃ resolution,
      selfForwarding.resolve oracle ⟨1⟩ templateArguments object arguments = .ok resolution ∧
        selfForwarding.resolve oracle ⟨0⟩ templateArguments object arguments = .ok resolution := by
  have hclosed : selfForwarding.Closed := by decide
  have hgoes : selfForwarding.GoesTo ⟨1⟩ ⟨0⟩ := .aliasing rfl rfl rfl
  exact ⟨hclosed, rfl, rfl, hgoes, .next rfl rfl,
    hclosed.forwards_transparently rfl rfl hgoes⟩

end Arena

end Declarations
