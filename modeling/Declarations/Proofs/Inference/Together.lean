import Declarations.Proofs.Inference.Visited

/-!
# Questions that are settled together

When a function is settled, all questions above it on the stack are settled with it, in the same
way.  This file says why that is right.  If the function is denied the attribute, calls of undecided
functions lead from each of the others to it, so nothing is given up that does not depend on it.  If
it is granted the attribute, every call of one of them is a call of a function that has the
attribute already, or of another one of them.
-/

namespace Declarations.Session

open Relation Arena

variable {config : Config} {wanted : Attribute} {session : Session} {moment : Moment}
variable {roots : Set DeclId} {below group : List DeclId}

/-- What joins the questions from a place of the stack on when they are settled. -/
inductive SettledTogether (config : Config) (wanted : Attribute) (before : Session) (place : Nat) :
    Bool → Prop where
  /-- The oldest one is about a function whose body nothing can excuse, and all others are about
  functions that depend on it. -/
  | denied {active : DeclId}
      (oldest : before.stack.frames[place]? = some ⟨active, wanted⟩)
      (broken : ∃ effect ∈ before.arena.effectsOf active, ¬before.arena.Allows wanted
        (before.arena.withStatus config wanted .holds ∪
          before.arena.withStatus config wanted .undecided) effect)
      (asked : ∀ frame ∈ before.stack.above place, frame.wanted = wanted ∧
        frame.function ∈ before.arena.withStatus config wanted .undecided)
      (reaches : ∀ frame ∈ before.stack.above place,
        ReflTransGen (before.arena.DependsOn config wanted) frame.function active) :
      SettledTogether config wanted before place false
  /-- Every effect of each function is fine by itself, or a call of a function that has the
  attribute or that one of the questions is about. -/
  | granted
      (asked : ∀ frame ∈ before.stack.above place, frame.wanted = wanted ∧
        frame.function ∈ before.arena.withStatus config wanted .undecided)
      (calls : ∀ frame ∈ before.stack.above place,
        ∀ effect ∈ before.arena.effectsOf frame.function, ∀ named, effect.callee? = some named →
          ∃ callee, before.arena.aliasedFunction named = .ok callee ∧
            (callee ∈ before.arena.withStatus config wanted .holds ∨
              ⟨callee, wanted⟩ ∈ before.stack.above place))
      (others : ∀ frame ∈ before.stack.above place,
        ∀ effect ∈ before.arena.effectsOf frame.function, effect.callee? = none →
          before.arena.breaksDirectly wanted effect = .ok false) :
      SettledTogether config wanted before place true

/-! ## The newest questions -/

theorem Working.mem_above_iff (hworking : Working config wanted session (below ++ group))
    {function : DeclId} :
    ⟨function, wanted⟩ ∈ session.stack.above below.length ↔ function ∈ group := by
  simp [hworking.above_eq]

theorem Working.exists_of_mem_above (hworking : Working config wanted session (below ++ group))
    {frame : Frame} (hframe : frame ∈ session.stack.above below.length) :
    ∃ function ∈ group, frame = ⟨function, wanted⟩ := by
  rw [hworking.above_eq] at hframe
  obtain ⟨function, hmem, rfl⟩ := List.mem_map.mp hframe
  exact ⟨function, hmem, rfl⟩

/-- Every one of the newest questions is about the attribute, and about an undecided function. -/
theorem Working.asked (hworking : Working config wanted session (below ++ group)) :
    ∀ frame ∈ session.stack.above below.length, frame.wanted = wanted ∧
      frame.function ∈ session.arena.withStatus config wanted .undecided := by
  intro frame hframe
  obtain ⟨function, hmem, rfl⟩ := hworking.exists_of_mem_above hframe
  exact ⟨rfl, hworking.undecided function (List.mem_append_right below hmem)⟩

/-! ## Walks -/

/-- Whenever a walk settles questions, they belong together. -/
theorem Moves.settledTogether {place : Nat} {holds : Bool}
    (hmove : Moves config wanted roots session moment)
    (hevent : moment.event = .settled place holds) :
    SettledTogether config wanted session place holds := by
  cases hmove with
  | opened => contradiction
  | @granted below group _ working supported _ =>
    obtain ⟨rfl, rfl⟩ := Event.settled.inj hevent
    refine .granted working.asked ?_ ?_
    · intro frame hframe effect heffect named hnamed
      obtain ⟨function, hmem, rfl⟩ := working.exists_of_mem_above hframe
      have hallows := supported function hmem effect heffect
      rw [Allows, hnamed] at hallows
      obtain ⟨callee, hcallee, halias⟩ := hallows
      exact ⟨callee, halias, hcallee.imp_right working.mem_above_iff.mpr⟩
    · intro frame hframe effect heffect hnone
      obtain ⟨function, hmem, rfl⟩ := working.exists_of_mem_above hframe
      have hallows := supported function hmem effect heffect
      rwa [Allows, hnone] at hallows
  | @denied below kept active _ working broken leads _ =>
    obtain ⟨rfl, rfl⟩ := Event.settled.inj hevent
    have holdest : session.stack.frames[below.length]? = some ⟨active, wanted⟩ := by
      simp [working.frames_eq]
    have hbroken : ∃ effect ∈ session.arena.effectsOf active, ¬session.arena.Allows wanted
        (session.arena.withStatus config wanted .holds ∪
          session.arena.withStatus config wanted .undecided) effect := by
      simpa [Supports] using broken
    refine .denied holdest hbroken working.asked ?_
    intro frame hframe
    obtain ⟨function, hmem, rfl⟩ := working.exists_of_mem_above hframe
    exact working.reaches (leads function (List.mem_append_right below hmem))

/-- In every inference, whatever is settled at one time belongs together: what is given up depends
on a function that cannot have the attribute, and what is granted calls nothing else that is
undecided. -/
theorem infer_settles_together (config : Config) (wanted : Attribute) {arena : Arena}
    (hclosed : arena.Closed) {function : DeclId} (hfunction : function.number < arena.size) :
    ∃ holds after journal,
      infer config { arena } function wanted = .ok (holds, after) ∧
      inferJournal config { arena } function wanted = .ok ((holds, after), journal) ∧
      journal.Tells (fun before moment => moment.event.perform before = .ok moment.after ∧
        ∀ place holds, moment.event = .settled place holds →
          SettledTogether config wanted before place holds) { arena } after := by
  have hidle : Session.Idle { arena } := ⟨rfl, hclosed⟩
  obtain ⟨_, holds, after, journal, _, -, hplain, hrun, -, htells, -⟩ :=
    infer_visited config wanted hidle hfunction
  refine ⟨holds, after, journal, hplain, hrun, htells.mono fun before moment hmove => ?_⟩
  exact ⟨hmove.perform_eq, fun place holds hevent => hmove.settledTogether hevent⟩

/-- A function that throws after a call, and the function that it calls, which calls it back. -/
def throwingLate : Arena where
  declarations := #[.ofBody [.call ⟨1⟩ .synthetic, .throwing .synthetic],
    .ofBody [.call ⟨0⟩ .synthetic]]

theorem infer_settles_together_throwingLate :
    throwingLate.Closed ∧ (⟨0⟩ : DeclId).number < throwingLate.size ∧
    ∃ holds after journal,
      infer {} { arena := throwingLate } ⟨0⟩ .nothrow = .ok (holds, after) ∧
      inferJournal {} { arena := throwingLate } ⟨0⟩ .nothrow = .ok ((holds, after), journal) ∧
      journal.Tells (fun before moment => moment.event.perform before = .ok moment.after ∧
        ∀ place holds, moment.event = .settled place holds →
          SettledTogether {} .nothrow before place holds) { arena := throwingLate } after := by
  have hclosed : throwingLate.Closed := by decide
  have hsize : (⟨0⟩ : DeclId).number < throwingLate.size := by decide
  exact ⟨hclosed, hsize, infer_settles_together {} .nothrow hclosed hsize⟩

/-- Both functions stay open until the first one throws. -/
example : (inferJournal {} { arena := throwingLate } ⟨0⟩ .nothrow).map
    (fun answer => answer.2.map Moment.event) =
      .ok [.opened ⟨⟨0⟩, .nothrow⟩, .opened ⟨⟨1⟩, .nothrow⟩, .settled 0 false] := by
  rfl

end Declarations.Session
