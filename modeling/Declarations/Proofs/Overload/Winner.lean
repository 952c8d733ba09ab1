import Declarations.Overload.ConversionTable
import Declarations.Proofs.Overload.TieBreak

/-!
# Who wins a call

Of the candidates that fit a call best, each one challenges the one that leads.  A challenger that
is better leads from then on, and is compared with none of those that tied with the former leader.
So a call goes to a function that has beaten the leader before it and all candidates after it.  That
the function is better than every other one as well follows only if the candidates can be ranked.
-/

namespace Declarations

namespace MatchLevel

variable {left right : MatchLevel}

theorem not_le_of_order_eq_gt (horder : left.order right = .gt) :
    right ≤ left ∧ ¬left ≤ right := by
  revert horder
  cases left <;> cases right <;> decide

theorem eq_of_order_eq (horder : left.order right = .eq) : left = right := by
  revert horder
  cases left <;> cases right <;> decide

theorem le_of_order_eq_lt (horder : left.order right = .lt) : left ≤ right ∧ left ≠ right := by
  revert horder
  cases left <;> cases right <;> decide

theorem noMatch_le : .noMatch ≤ left :=
  Nat.zero_le _

theorem eq_of_le_of_le (hle : left ≤ right) (hge : right ≤ left) : left = right := by
  revert hle hge
  cases left <;> cases right <;> decide

end MatchLevel

namespace Arena

/-- The candidates that fit a call just as well as the level says, in the order of the tour. -/
def fitting (arena : Arena) (oracle : MatchOracle) (object : Option TypeRef)
    (arguments : List Argument) (level : MatchLevel) (functions : List DeclId) : List DeclId :=
  functions.filter fun function =>
    (arena.fit oracle object arguments function).toOption = some level

/-- Candidates that fit equally well challenge the leader one after the other.  The number counts
the leader and those that tied with it since it leads. -/
inductive Contest (arena : Arena) (oracle : MatchOracle) :
    DeclId → Nat → List DeclId → DeclId → Nat → Prop where
  | done {leader : DeclId} {count : Nat} : Contest arena oracle leader count [] leader count
  | takes {leader challenger last : DeclId} {count total : Nat} {challengers : List DeclId}
      (order_eq : arena.breakTie oracle challenger leader = .ok .gt)
      (rest : Contest arena oracle challenger 1 challengers last total) :
      Contest arena oracle leader count (challenger :: challengers) last total
  | keeps {leader challenger last : DeclId} {count total : Nat} {challengers : List DeclId}
      (order_eq : arena.breakTie oracle challenger leader = .ok .lt)
      (rest : Contest arena oracle leader count challengers last total) :
      Contest arena oracle leader count (challenger :: challengers) last total
  | ties {leader challenger last : DeclId} {count total : Nat} {challengers : List DeclId}
      (order_eq : arena.breakTie oracle challenger leader = .ok .eq)
      (rest : Contest arena oracle leader (count + 1) challengers last total) :
      Contest arena oracle leader count (challenger :: challengers) last total

/-- Who leads after a list of candidates, and how many have the best place. -/
def Leads (arena : Arena) (oracle : MatchOracle) (functions : List DeclId) (leader : DeclId)
    (count : Nat) : Prop :=
  ∃ first challengers, functions = first :: challengers ∧
    arena.Contest oracle first 1 challengers leader count

/-- The function fits the call best and, of all candidates that fit as well, has beaten the leader
before it and everyone after it. -/
def Wins (arena : Arena) (oracle : MatchOracle) (object : Option TypeRef)
    (arguments : List Argument) (functions : List DeclId) (winner : DeclId) : Prop :=
  ∃ level earlier later, level ≠ .noMatch ∧
    (∀ function ∈ functions, ∃ other,
      arena.fit oracle object arguments function = .ok other ∧ other ≤ level) ∧
    arena.fitting oracle object arguments level functions = earlier ++ winner :: later ∧
    (∀ leader count, arena.Leads oracle earlier leader count →
      arena.breakTie oracle winner leader = .ok .gt) ∧
    ∀ function ∈ later, arena.breakTie oracle function winner = .ok .lt

/-- Who beats another candidate beats as well everyone who does not beat that one. -/
def Ranks (arena : Arena) (oracle : MatchOracle) (functions : List DeclId) : Prop :=
  ∀ better ∈ functions, ∀ worse ∈ functions, ∀ other ∈ functions,
    arena.breakTie oracle better worse = .ok .gt →
      arena.breakTie oracle better other = .ok .gt ∨ arena.breakTie oracle other worse = .ok .gt

variable {arena : Arena} {oracle : MatchOracle} {leader last winner challenger : DeclId}
variable {count total : Nat} {challengers functions : List DeclId}

/-- Who beats a candidate is not beaten by it. -/
theorem breakTie_swap (horder : arena.breakTie oracle challenger leader = .ok .gt) :
    arena.breakTie oracle leader challenger = .ok .lt :=
  breakTie_comm (not_overrides_of_breakTie horder nofun) horder

theorem breakTie_self : arena.breakTie oracle leader leader ≠ .ok .gt := by
  intro horder
  have hswapped := breakTie_swap horder
  rw [horder] at hswapped
  contradiction

/-! ## Contests -/

theorem Contest.append {middle : DeclId} {between : Nat} {others : List DeclId}
    (hfirst : arena.Contest oracle leader count challengers middle between)
    (hsecond : arena.Contest oracle middle between others last total) :
    arena.Contest oracle leader count (challengers ++ others) last total := by
  induction hfirst with
  | done => exact hsecond
  | takes order_eq _ ih => exact .takes order_eq (ih hsecond)
  | keeps order_eq _ ih => exact .keeps order_eq (ih hsecond)
  | ties order_eq _ ih => exact .ties order_eq (ih hsecond)

/-- A contest has one outcome. -/
theorem Contest.unique {other : DeclId} {otherTotal : Nat}
    (hleft : arena.Contest oracle leader count challengers last total)
    (hright : arena.Contest oracle leader count challengers other otherTotal) :
    last = other ∧ total = otherTotal := by
  induction hleft with
  | done =>
    cases hright
    exact ⟨rfl, rfl⟩
  | takes order_eq _ ih => cases hright <;> simp_all
  | keeps order_eq _ ih => cases hright <;> simp_all
  | ties order_eq _ ih => cases hright <;> simp_all

/-- The first leader or a challenger leads in the end. -/
theorem Contest.mem (hcontest : arena.Contest oracle leader count challengers last total) :
    last ∈ leader :: challengers := by
  induction hcontest with
  | done => exact List.mem_cons_self
  | takes _ _ ih => exact List.mem_cons_of_mem _ ih
  | keeps _ _ ih | ties _ _ ih =>
    obtain rfl | hmem := List.mem_cons.mp ih
    · exact List.mem_cons_self
    · exact List.mem_cons_of_mem _ (List.mem_cons_of_mem _ hmem)

/-- Candidates that can be compared have a contest. -/
theorem Closed.exists_contest (hclosed : arena.Closed) (oracle : MatchOracle)
    (hleader : leader.number < arena.size)
    (hchallengers : ∀ challenger ∈ challengers, challenger.number < arena.size) (count : Nat) :
    ∃ last total, arena.Contest oracle leader count challengers last total := by
  induction challengers generalizing leader count with
  | nil => exact ⟨leader, count, .done⟩
  | cons challenger challengers ih =>
    obtain ⟨hchallenger, hothers⟩ := List.forall_mem_cons.mp hchallengers
    obtain ⟨order, horder⟩ := hclosed.breakTie hchallenger hleader oracle
    cases order with
    | gt =>
      obtain ⟨last, total, hrest⟩ := ih hchallenger hothers 1
      exact ⟨last, total, .takes horder hrest⟩
    | lt =>
      obtain ⟨last, total, hrest⟩ := ih hleader hothers count
      exact ⟨last, total, .keeps horder hrest⟩
    | eq =>
      obtain ⟨last, total, hrest⟩ := ih hleader hothers (count + 1)
      exact ⟨last, total, .ties horder hrest⟩

/-- Who leads alone in the end led alone from the start and beat all challengers, or beat the leader
when it challenged and all challengers after that. -/
theorem Contest.cases_of_one (hcontest : arena.Contest oracle leader count challengers winner total)
    (htotal : total = 1) (hcount : 1 ≤ count) :
    (winner = leader ∧ count = 1 ∧
        ∀ challenger ∈ challengers, arena.breakTie oracle challenger winner = .ok .lt) ∨
      ∃ earlier later holder ties, challengers = earlier ++ winner :: later ∧
        arena.Contest oracle leader count earlier holder ties ∧
        arena.breakTie oracle winner holder = .ok .gt ∧
        ∀ challenger ∈ later, arena.breakTie oracle challenger winner = .ok .lt := by
  induction hcontest with
  | done => exact .inl ⟨rfl, htotal, by simp⟩
  | @takes leader challenger last count total challengers order_eq rest ih =>
    right
    obtain ⟨rfl, -, hlater⟩ | ⟨earlier, later, holder, ties, rfl, hcontest, hwins, hlater⟩ :=
      ih htotal (Nat.le_refl 1)
    · exact ⟨[], challengers, leader, count, rfl, .done, order_eq, hlater⟩
    · exact ⟨challenger :: earlier, later, holder, ties, rfl, .takes order_eq hcontest, hwins,
        hlater⟩
  | @keeps leader challenger last count total challengers order_eq rest ih =>
    obtain ⟨rfl, hcount, hlater⟩ | ⟨earlier, later, holder, ties, rfl, hcontest, hwins, hlater⟩ :=
      ih htotal hcount
    · exact .inl ⟨rfl, hcount, List.forall_mem_cons.mpr ⟨order_eq, hlater⟩⟩
    · exact .inr ⟨challenger :: earlier, later, holder, ties, rfl, .keeps order_eq hcontest,
        hwins, hlater⟩
  | @ties leader challenger last count total challengers order_eq rest ih =>
    right
    obtain ⟨-, hmore, -⟩ | ⟨earlier, later, holder, ties, rfl, hcontest, hwins, hlater⟩ :=
      ih htotal (by omega)
    · omega
    · exact ⟨challenger :: earlier, later, holder, ties, rfl, .ties order_eq hcontest, hwins,
        hlater⟩

/-- A leader that beats all challengers goes on to lead. -/
theorem contest_of_keeps
    (hkeeps : ∀ challenger ∈ challengers, arena.breakTie oracle challenger leader = .ok .lt) :
    arena.Contest oracle leader count challengers leader count := by
  induction challengers with
  | nil => exact .done
  | cons challenger challengers ih =>
    obtain ⟨horder, hothers⟩ := List.forall_mem_cons.mp hkeeps
    exact .keeps horder (ih hothers)

/-- Who does not beat the leader does not beat a later one, if the candidates can be ranked. -/
theorem Contest.unbeaten_of_unbeaten {members : List DeclId} {function : DeclId}
    (hcontest : arena.Contest oracle leader count challengers last total)
    (hranks : arena.Ranks oracle members) (hfunction : function ∈ members)
    (hleader : leader ∈ members) (hchallengers : ∀ challenger ∈ challengers, challenger ∈ members)
    (hunbeaten : arena.breakTie oracle function leader ≠ .ok .gt) :
    arena.breakTie oracle function last ≠ .ok .gt := by
  induction hcontest with
  | done => exact hunbeaten
  | @takes leader challenger last count total challengers order_eq rest ih =>
    obtain ⟨hchallenger, hothers⟩ := List.forall_mem_cons.mp hchallengers
    refine ih hchallenger hothers fun hbeats => ?_
    obtain hleads | hloses :=
      hranks function hfunction challenger hchallenger leader hleader hbeats
    · exact hunbeaten hleads
    · rw [breakTie_swap order_eq] at hloses
      contradiction
  | keeps _ _ ih | ties _ _ ih =>
    exact ih hleader (List.forall_mem_cons.mp hchallengers).2 hunbeaten

/-- No challenger beats who leads in the end. -/
theorem Contest.unbeaten {members : List DeclId}
    (hcontest : arena.Contest oracle leader count challengers last total)
    (hranks : arena.Ranks oracle members) (hleader : leader ∈ members)
    (hchallengers : ∀ challenger ∈ challengers, challenger ∈ members) :
    ∀ challenger ∈ challengers, arena.breakTie oracle challenger last ≠ .ok .gt := by
  induction hcontest with
  | done => simp
  | @takes leader challenger last count total challengers order_eq rest ih =>
    obtain ⟨hchallenger, hothers⟩ := List.forall_mem_cons.mp hchallengers
    refine List.forall_mem_cons.mpr ⟨?_, ih hchallenger hothers⟩
    exact rest.unbeaten_of_unbeaten hranks hchallenger hchallenger hothers breakTie_self
  | keeps order_eq rest ih | ties order_eq rest ih =>
    obtain ⟨hchallenger, hothers⟩ := List.forall_mem_cons.mp hchallengers
    refine List.forall_mem_cons.mpr ⟨?_, ih hleader hothers⟩
    refine rest.unbeaten_of_unbeaten hranks hchallenger hleader hothers ?_
    rw [order_eq]
    simp

/-! ## Leaders -/

theorem leads_singleton (arena : Arena) (oracle : MatchOracle) (function : DeclId) :
    arena.Leads oracle [function] function 1 :=
  ⟨function, [], rfl, .done⟩

/-- One more candidate challenges the leader. -/
theorem Leads.challenge (hleads : arena.Leads oracle functions leader count)
    (hcontest : arena.Contest oracle leader count [challenger] last total) :
    arena.Leads oracle (functions ++ [challenger]) last total := by
  obtain ⟨first, challengers, rfl, hfirst⟩ := hleads
  exact ⟨first, challengers ++ [challenger], rfl, hfirst.append hcontest⟩

theorem Leads.mem (hleads : arena.Leads oracle functions leader count) : leader ∈ functions := by
  obtain ⟨first, challengers, rfl, hcontest⟩ := hleads
  exact hcontest.mem

theorem Leads.unique {other : DeclId} {otherTotal : Nat}
    (hleft : arena.Leads oracle functions last total)
    (hright : arena.Leads oracle functions other otherTotal) :
    last = other ∧ total = otherTotal := by
  obtain ⟨first, challengers, rfl, hcontest⟩ := hleft
  obtain ⟨same, others, hsame, hother⟩ := hright
  obtain ⟨rfl, rfl⟩ := List.cons.inj hsame
  exact hcontest.unique hother

theorem Closed.exists_leads (hclosed : arena.Closed) (oracle : MatchOracle)
    (hfunctions : ∀ function ∈ functions, function.number < arena.size) (hne : functions ≠ []) :
    ∃ leader count, arena.Leads oracle functions leader count := by
  obtain ⟨first, challengers, rfl⟩ := List.exists_cons_of_ne_nil hne
  obtain ⟨hfirst, hchallengers⟩ := List.forall_mem_cons.mp hfunctions
  obtain ⟨leader, count, hcontest⟩ := hclosed.exists_contest oracle hfirst hchallengers 1
  exact ⟨leader, count, first, challengers, rfl, hcontest⟩

/-- A candidate leads alone exactly if it beat whoever led before it and all candidates after it. -/
theorem Closed.leads_one_iff (hclosed : arena.Closed) (oracle : MatchOracle)
    (hfunctions : ∀ function ∈ functions, function.number < arena.size) :
    arena.Leads oracle functions winner 1 ↔
      ∃ earlier later, functions = earlier ++ winner :: later ∧
        (∀ leader count, arena.Leads oracle earlier leader count →
          arena.breakTie oracle winner leader = .ok .gt) ∧
        ∀ function ∈ later, arena.breakTie oracle function winner = .ok .lt := by
  constructor
  · rintro ⟨first, challengers, rfl, hcontest⟩
    obtain ⟨rfl, -, hlater⟩ | ⟨earlier, later, holder, ties, rfl, hholder, hwins, hlater⟩ :=
      hcontest.cases_of_one rfl (Nat.le_refl 1)
    · refine ⟨[], challengers, rfl, ?_, hlater⟩
      rintro leader count ⟨other, others, hother, -⟩
      contradiction
    · refine ⟨first :: earlier, later, rfl, fun leader count hleads => ?_, hlater⟩
      obtain ⟨rfl, -⟩ := hleads.unique ⟨first, earlier, rfl, hholder⟩
      exact hwins
  · rintro ⟨earlier, later, rfl, hwins, hlater⟩
    by_cases hearlier : earlier = []
    · subst earlier
      exact ⟨winner, later, rfl, contest_of_keeps hlater⟩
    · obtain ⟨leader, count, hleads⟩ := hclosed.exists_leads oracle
        (fun function hmem => hfunctions function (List.mem_append_left _ hmem)) hearlier
      have hbeats := hwins leader count hleads
      obtain ⟨first, challengers, rfl, hcontest⟩ := hleads
      exact ⟨first, challengers ++ winner :: later, rfl,
        hcontest.append (.takes hbeats (contest_of_keeps hlater))⟩

/-- Who leads alone beats every other candidate if they can be ranked. -/
theorem Leads.beats (hleads : arena.Leads oracle functions winner 1)
    (hranks : arena.Ranks oracle functions) :
    ∀ function ∈ functions, function ≠ winner →
      arena.breakTie oracle function winner = .ok .lt := by
  obtain ⟨first, challengers, rfl, hcontest⟩ := hleads
  obtain ⟨rfl, -, hlater⟩ | ⟨earlier, later, holder, ties, rfl, hholder, hwins, hlater⟩ :=
    hcontest.cases_of_one rfl (Nat.le_refl 1)
  · intro function hmem hne
    exact hlater function ((List.mem_cons.mp hmem).resolve_left hne)
  intro function hmem hne
  rw [← List.cons_append, List.mem_append] at hmem
  obtain hmem | hmem := hmem
  · -- The winner beat whoever led before it, so it beats all who did not beat that one.
    have hmembers : ∀ other ∈ first :: earlier, other ∈ first :: (earlier ++ winner :: later) :=
      fun other hother => List.mem_append_left (winner :: later) hother
    have hfirst := hmembers first List.mem_cons_self
    have hchallengers : ∀ other ∈ earlier, other ∈ first :: (earlier ++ winner :: later) :=
      fun other hother => hmembers other (List.mem_cons_of_mem first hother)
    have hunbeaten : arena.breakTie oracle function holder ≠ .ok .gt := by
      obtain rfl | hmem := List.mem_cons.mp hmem
      · exact hholder.unbeaten_of_unbeaten hranks hfirst hfirst hchallengers breakTie_self
      · exact hholder.unbeaten hranks hfirst hchallengers function hmem
    have hholderMem : holder ∈ first :: (earlier ++ winner :: later) :=
      hmembers holder hholder.mem
    obtain hbeats | hloses := hranks winner (by simp) holder hholderMem function
      (hmembers function hmem) hwins
    · exact breakTie_swap hbeats
    · exact absurd hloses hunbeaten
  · exact hlater function ((List.mem_cons.mp hmem).resolve_left hne)

/-! ## The search -/

/-- How a search stands after some candidates: none of them fits, or one of those that fit best
leads them. -/
inductive Stands (arena : Arena) (oracle : MatchOracle) (object : Option TypeRef)
    (arguments : List Argument) (passed : List DeclId) (resolution : Resolution) : Prop where
  | unmatched
      (fit_eq : ∀ function ∈ passed, arena.fit oracle object arguments function = .ok .noMatch)
      (winner_eq : resolution.winner = none) (count_eq : resolution.count = 0)
  | matched {leader : DeclId} (level_ne : resolution.level ≠ .noMatch)
      (fit_le : ∀ function ∈ passed, ∃ level,
        arena.fit oracle object arguments function = .ok level ∧ level ≤ resolution.level)
      (winner_eq : resolution.winner = some leader)
      (leads : arena.Leads oracle
        (arena.fitting oracle object arguments resolution.level passed) leader resolution.count)

variable {object : Option TypeRef} {arguments : List Argument} {passed : List DeclId}
variable {resolution next : Resolution} {candidate function : DeclId} {level other : MatchLevel}

theorem mem_fitting : function ∈ arena.fitting oracle object arguments level functions ↔
    function ∈ functions ∧ arena.fit oracle object arguments function = .ok level := by
  rw [fitting, List.mem_filter, decide_eq_true_iff]
  cases arena.fit oracle object arguments function <;> simp [Except.toOption]

/-- One more candidate is among those that fit as well if it does. -/
theorem fitting_append (hfit : arena.fit oracle object arguments candidate = .ok other) :
    arena.fitting oracle object arguments level (passed ++ [candidate]) =
      arena.fitting oracle object arguments level passed ++
        if other = level then [candidate] else [] := by
  rw [fitting, List.filter_append, fitting]
  congr 1
  by_cases hlevel : other = level <;> simp [hfit, hlevel, Except.toOption]

/-- The first candidate that is so good is the only one. -/
theorem fitting_append_of_better (hfit : arena.fit oracle object arguments candidate = .ok level)
    (hpassed : ∀ function ∈ passed, arena.fit oracle object arguments function ≠ .ok level) :
    arena.fitting oracle object arguments level (passed ++ [candidate]) = [candidate] := by
  have hnone : arena.fitting oracle object arguments level passed = [] := by
    rw [List.eq_nil_iff_forall_not_mem]
    intro function hmem
    obtain ⟨hpassedMem, hfunction⟩ := mem_fitting.mp hmem
    exact hpassed function hpassedMem hfunction
  rw [fitting_append hfit, hnone, if_pos rfl, List.nil_append]

namespace Stands

theorem nil : arena.Stands oracle object arguments [] {} :=
  .unmatched (by simp) rfl rfl

/-- Which candidate was the first one has no part in the search. -/
theorem meet (hstands : arena.Stands oracle object arguments passed resolution)
    (candidate : DeclId) :
    arena.Stands oracle object arguments passed (resolution.meet candidate) := by
  cases hstands with
  | unmatched fit_eq winner_eq count_eq => exact .unmatched fit_eq winner_eq count_eq
  | matched level_ne fit_le winner_eq leads => exact .matched level_ne fit_le winner_eq leads

/-- A candidate that does not fit changes nothing. -/
theorem pass (hstands : arena.Stands oracle object arguments passed resolution)
    (hfit : arena.fit oracle object arguments candidate = .ok .noMatch) :
    arena.Stands oracle object arguments (passed ++ [candidate]) resolution := by
  cases hstands with
  | unmatched fit_eq winner_eq count_eq =>
    refine .unmatched (List.forall_mem_append.mpr ⟨fit_eq, ?_⟩) winner_eq count_eq
    simpa using hfit
  | matched level_ne fit_le winner_eq leads =>
    refine .matched level_ne (List.forall_mem_append.mpr ⟨fit_le, ?_⟩) winner_eq ?_
    · simpa using ⟨_, hfit, MatchLevel.noMatch_le⟩
    · rwa [fitting_append hfit, if_neg level_ne.symm, List.append_nil]

/-- A candidate that fits better than all before it leads alone. -/
theorem take (hbetter : ∀ function ∈ passed, ∃ other,
      arena.fit oracle object arguments function = .ok other ∧ other ≤ level ∧ other ≠ level)
    (hfit : arena.fit oracle object arguments candidate = .ok level) (hlevel : level ≠ .noMatch)
    (resolution : Resolution) :
    arena.Stands oracle object arguments (passed ++ [candidate])
      (resolution.take candidate level) := by
  refine .matched hlevel (List.forall_mem_append.mpr ⟨fun function hmem => ?_, ?_⟩) rfl ?_
  · obtain ⟨other, hother, hle, -⟩ := hbetter function hmem
    exact ⟨other, hother, hle⟩
  · simpa using ⟨level, hfit, Nat.le_refl _⟩
  · have hnone : ∀ function ∈ passed,
        arena.fit oracle object arguments function ≠ .ok level := by
      intro function hmem hequal
      obtain ⟨other, hother, -, hne⟩ := hbetter function hmem
      exact hne (Except.ok.inj (hother.symm.trans hequal))
    change arena.Leads oracle (arena.fitting oracle object arguments level _) candidate 1
    rw [fitting_append_of_better hfit hnone]
    exact leads_singleton arena oracle candidate

/-- A candidate that fits as well as the best ones challenges their leader. -/
theorem compete (hlevel : resolution.level ≠ .noMatch)
    (hle : ∀ function ∈ passed, ∃ level,
      arena.fit oracle object arguments function = .ok level ∧ level ≤ resolution.level)
    (hleads : arena.Leads oracle (arena.fitting oracle object arguments resolution.level passed)
      leader resolution.count)
    (hfit : arena.fit oracle object arguments candidate = .ok resolution.level)
    (hcontest : arena.Contest oracle leader resolution.count [candidate] last next.count)
    (hnext : next.level = resolution.level) (hwinner : next.winner = some last) :
    arena.Stands oracle object arguments (passed ++ [candidate]) next := by
  rw [← hnext] at hlevel hle hleads hfit
  refine .matched hlevel (List.forall_mem_append.mpr ⟨hle, ?_⟩) hwinner ?_
  · simpa using ⟨_, hfit, Nat.le_refl _⟩
  · rw [fitting_append hfit, if_pos rfl]
    exact hleads.challenge hcontest

/-- A candidate that fits challenges the leader if it fits as well as that. -/
theorem challenge (hstands : arena.Stands oracle object arguments passed resolution)
    (hfit : arena.fit oracle object arguments candidate = .ok level) (hlevel : level ≠ .noMatch)
    (hchallenge : arena.challenge oracle resolution candidate level = .ok next) :
    arena.Stands oracle object arguments (passed ++ [candidate]) next := by
  cases hstands with
  | unmatched fit_eq winner_eq =>
    simp only [Arena.challenge, winner_eq, pure_eq_ok, Except.ok.injEq] at hchallenge
    subst next
    exact take (fun function hmem => ⟨.noMatch, fit_eq function hmem, MatchLevel.noMatch_le,
      hlevel.symm⟩) hfit hlevel resolution
  | @matched leader level_ne fit_le winner_eq leads =>
    simp only [Arena.challenge, winner_eq] at hchallenge
    cases horder : level.order resolution.level with
    | gt =>
      simp only [horder, pure_eq_ok, Except.ok.injEq] at hchallenge
      subst next
      obtain ⟨hle, hbetter⟩ := MatchLevel.not_le_of_order_eq_gt horder
      refine take (fun function hmem => ?_) hfit hlevel resolution
      obtain ⟨other, hother, hbound⟩ := fit_le function hmem
      exact ⟨other, hother, Nat.le_trans hbound hle, fun hsame => hbetter (hsame ▸ hbound)⟩
    | lt =>
      simp only [horder, pure_eq_ok, Except.ok.injEq] at hchallenge
      subst next
      obtain ⟨hle, hne⟩ := MatchLevel.le_of_order_eq_lt horder
      refine .matched level_ne (List.forall_mem_append.mpr ⟨fit_le, ?_⟩) winner_eq ?_
      · simpa using ⟨level, hfit, hle⟩
      · rwa [fitting_append hfit, if_neg hne, List.append_nil]
    | eq =>
      obtain rfl := MatchLevel.eq_of_order_eq horder
      simp only [horder] at hchallenge
      obtain ⟨order, hbreak, hnext⟩ := bind_eq_ok_iff.mp hchallenge
      cases order with
      | gt =>
        obtain rfl := Except.ok.inj hnext
        exact compete level_ne fit_le leads hfit (.takes hbreak .done) rfl rfl
      | lt =>
        obtain rfl := Except.ok.inj hnext
        exact compete level_ne fit_le leads hfit (.keeps hbreak .done) rfl winner_eq
      | eq =>
        obtain rfl := Except.ok.inj hnext
        exact compete level_ne fit_le leads hfit (.ties hbreak .done) rfl winner_eq

/-- Taking one candidate into account. -/
theorem consider (hstands : arena.Stands oracle object arguments passed resolution)
    (hconsider : arena.consider oracle object arguments resolution candidate = .ok next) :
    arena.Stands oracle object arguments (passed ++ [candidate]) next := by
  rw [consider_eq] at hconsider
  obtain ⟨level, hfit, hrest⟩ := bind_eq_ok_iff.mp hconsider
  split at hrest
  · next hlevel =>
    obtain rfl := Except.ok.inj hrest
    exact (hstands.meet candidate).pass (hlevel ▸ hfit)
  · next hlevel => exact (hstands.meet candidate).challenge hfit hlevel hrest

/-- A search through candidates. -/
theorem foldlM (hstands : arena.Stands oracle object arguments passed resolution)
    (hsearch : functions.foldlM (arena.consider oracle object arguments) resolution = .ok next) :
    arena.Stands oracle object arguments (passed ++ functions) next := by
  induction functions generalizing passed resolution with
  | nil =>
    obtain rfl := Except.ok.inj hsearch
    rwa [List.append_nil]
  | cons candidate functions ih =>
    rw [List.foldlM_cons] at hsearch
    obtain ⟨middle, hconsider, hrest⟩ := bind_eq_ok_iff.mp hsearch
    simpa using ih (hstands.consider hconsider) hrest

/-- The one best candidate is the one that leads alone those that fit best. -/
theorem best?_eq_some_iff (hstands : arena.Stands oracle object arguments functions resolution) :
    resolution.best? = some winner ↔ ∃ level, level ≠ .noMatch ∧
      (∀ function ∈ functions, ∃ other,
        arena.fit oracle object arguments function = .ok other ∧ other ≤ level) ∧
      arena.Leads oracle (arena.fitting oracle object arguments level functions) winner 1 := by
  have hfirst : ∀ {level leader count},
      arena.Leads oracle (arena.fitting oracle object arguments level functions) leader count →
        ∃ function ∈ functions, arena.fit oracle object arguments function = .ok level := by
    rintro level leader count ⟨first, challengers, hfunctions, -⟩
    have hmem : first ∈ arena.fitting oracle object arguments level functions := by
      simp [hfunctions]
    exact ⟨first, mem_fitting.mp hmem⟩
  cases hstands with
  | unmatched fit_eq winner_eq count_eq =>
    simp only [Resolution.best?, count_eq, Nat.zero_ne_one, if_false, reduceCtorEq, false_iff]
    rintro ⟨level, hlevel, -, hleads⟩
    obtain ⟨function, hmem, hfit⟩ := hfirst hleads
    rw [fit_eq function hmem, Except.ok.injEq] at hfit
    exact hlevel hfit.symm
  | @matched leader level_ne fit_le winner_eq leads =>
    constructor
    · intro hbest
      simp only [Resolution.best?, Option.ite_none_right_eq_some, winner_eq,
        Option.some.injEq] at hbest
      obtain ⟨hcount, rfl⟩ := hbest
      exact ⟨resolution.level, level_ne, fit_le, hcount ▸ leads⟩
    · rintro ⟨level, hlevel, hle, hleads⟩
      have hsame : level = resolution.level := by
        obtain ⟨function, hmem, hfit⟩ := hfirst hleads
        obtain ⟨leading, hleading, hfitLeading⟩ := hfirst leads
        obtain ⟨other, hother, hbound⟩ := fit_le function hmem
        obtain ⟨another, hanother, hanotherBound⟩ := hle leading hleading
        obtain rfl : level = other := Except.ok.inj (hfit.symm.trans hother)
        obtain rfl : resolution.level = another :=
          Except.ok.inj (hfitLeading.symm.trans hanother)
        exact MatchLevel.eq_of_le_of_le hbound hanotherBound
      subst level
      obtain ⟨rfl, hcount⟩ := hleads.unique leads
      simp [Resolution.best?, winner_eq, ← hcount]

end Stands

/-- A call that gives arguments to a template has no winner. -/
theorem best?_of_instantiates {templateArguments : Option (List TemplateArgument)}
    (hinstantiates : instantiates templateArguments = true) (hcount : resolution.count = 0)
    (hsearch : functions.foldlM (arena.weigh oracle templateArguments object arguments) resolution =
      .ok next) : next.best? = none := by
  induction functions generalizing resolution with
  | nil =>
    obtain rfl := Except.ok.inj hsearch
    simp [Resolution.best?, hcount]
  | cons candidate functions ih =>
    rw [List.foldlM_cons, weigh, if_pos hinstantiates, ok_bind] at hsearch
    have hmet : (resolution.meet candidate).count = 0 := hcount
    exact ih hmet hsearch

/-- A call goes to a function exactly if that fits the call best and, of all that fit as well, has
beaten the leader before it and all candidates after it.  It beats the others among them as well if
these can be ranked. -/
theorem Closed.resolve_winner_iff (hclosed : arena.Closed) {start : DeclId}
    (hstart : start.number < arena.size) (oracle : MatchOracle)
    (templateArguments : Option (List TemplateArgument)) (object : Option TypeRef)
    (arguments : List Argument) :
    ∃ functions resolution, arena.candidates start = .ok functions ∧
      arena.resolve oracle start templateArguments object arguments = .ok resolution ∧
      (∀ winner, resolution.best? = some winner ↔ instantiates templateArguments = false ∧
        arena.Wins oracle object arguments functions winner) ∧
      ∀ winner level, resolution.best? = some winner →
        winner ∈ arena.fitting oracle object arguments level functions →
        arena.Ranks oracle (arena.fitting oracle object arguments level functions) →
        ∀ function ∈ arena.fitting oracle object arguments level functions, function ≠ winner →
          arena.breakTie oracle function winner = .ok .lt := by
  obtain ⟨functions, hcandidates, -, hfunctions, hsearch⟩ := hclosed.exists_search hstart
  obtain ⟨resolution, hresolution⟩ :=
    hclosed.resolve hstart oracle templateArguments object arguments
  refine ⟨functions, resolution, hcandidates, hresolution, ?_⟩
  rw [hsearch] at hresolution
  cases hinstantiates : instantiates templateArguments with
  | true =>
    have hnone : resolution.best? = none := best?_of_instantiates hinstantiates rfl hresolution
    simp [hnone]
  | false =>
    have hweigh : arena.weigh oracle templateArguments object arguments =
        arena.consider oracle object arguments := by
      funext resolution candidate
      rw [Arena.weigh, if_neg (by simp [hinstantiates])]
    rw [hweigh] at hresolution
    have hnothing : arena.Stands oracle object arguments [] {} := .unmatched (by simp) rfl rfl
    have hstands : arena.Stands oracle object arguments functions resolution :=
      hnothing.foldlM hresolution
    constructor
    · intro winner
      rw [hstands.best?_eq_some_iff, eq_self, true_and]
      refine exists_congr fun level => ?_
      rw [hclosed.leads_one_iff oracle fun function hmem =>
        (hfunctions function (mem_fitting.mp hmem).1).lt]
      simp only [exists_and_left]
    · intro winner level hbest hwinner hranks
      obtain ⟨best, -, -, hleads⟩ := hstands.best?_eq_some_iff.mp hbest
      have hfit := (mem_fitting.mp hwinner).2
      rw [(mem_fitting.mp hleads.mem).2, Except.ok.injEq] at hfit
      subst best
      exact hleads.beats hranks

/-- Three functions of one parameter each.  The types of the parameters are 1, 2 and 3. -/
def threeOverloads : Arena where
  declarations := #[
    (Declaration.func .anonymous .synthetic .plain [⟨.anonymous, ⟨1⟩, ∅, none⟩]).withNext ⟨1⟩,
    (Declaration.func .anonymous .synthetic .plain [⟨.anonymous, ⟨2⟩, ∅, none⟩]).withNext ⟨2⟩,
    .func .anonymous .synthetic .plain [⟨.anonymous, ⟨3⟩, ∅, none⟩]]

/-- Type 9 converts to the types 1, 2 and 3, and type 3 to type 1. -/
def conversionsOfNine : ConversionTable where
  conversions := [⟨⟨9⟩, ⟨1⟩, .conversion⟩, ⟨⟨9⟩, ⟨2⟩, .conversion⟩, ⟨⟨9⟩, ⟨3⟩, .conversion⟩,
    ⟨⟨3⟩, ⟨1⟩, .conversion⟩]

theorem Closed.resolve_winner_iff_threeOverloads :
    threeOverloads.Closed ∧
    ∃ functions resolution, threeOverloads.candidates ⟨0⟩ = .ok functions ∧
      threeOverloads.resolve conversionsOfNine.oracle ⟨0⟩ none none [⟨⟨9⟩, none, false⟩] =
        .ok resolution ∧
      (∀ winner, resolution.best? = some winner ↔ instantiates none = false ∧
        threeOverloads.Wins conversionsOfNine.oracle none [⟨⟨9⟩, none, false⟩] functions winner) ∧
      ∀ winner level, resolution.best? = some winner →
        winner ∈ threeOverloads.fitting conversionsOfNine.oracle none [⟨⟨9⟩, none, false⟩] level
          functions →
        threeOverloads.Ranks conversionsOfNine.oracle (threeOverloads.fitting
          conversionsOfNine.oracle none [⟨⟨9⟩, none, false⟩] level functions) →
        ∀ function ∈ threeOverloads.fitting conversionsOfNine.oracle none
          [⟨⟨9⟩, none, false⟩] level functions, function ≠ winner →
          threeOverloads.breakTie conversionsOfNine.oracle function winner = .ok .lt := by
  have hclosed : threeOverloads.Closed := by decide
  exact ⟨hclosed, hclosed.resolve_winner_iff (by decide) conversionsOfNine.oracle none none
    [⟨⟨9⟩, none, false⟩]⟩

/-- The third function wins because it beats the first one, which led.  It is no better than the
second one, which tied with the first one and fits just as well. -/
theorem resolve_winner_unordered_threeOverloads :
    threeOverloads.Closed ∧
    (do return (← threeOverloads.resolve conversionsOfNine.oracle ⟨0⟩ none none
      [⟨⟨9⟩, none, false⟩]).best?) = .ok (some ⟨2⟩) ∧
    threeOverloads.fit conversionsOfNine.oracle none [⟨⟨9⟩, none, false⟩] ⟨2⟩ = .ok .conversion ∧
    threeOverloads.fit conversionsOfNine.oracle none [⟨⟨9⟩, none, false⟩] ⟨1⟩ = .ok .conversion ∧
    threeOverloads.breakTie conversionsOfNine.oracle ⟨1⟩ ⟨2⟩ = .ok .eq ∧
    threeOverloads.breakTie conversionsOfNine.oracle ⟨2⟩ ⟨1⟩ = .ok .eq :=
  ⟨by decide, rfl, rfl, rfl, rfl, rfl⟩

end Arena

end Declarations
