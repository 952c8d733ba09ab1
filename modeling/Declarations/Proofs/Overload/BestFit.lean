import Declarations.Proofs.Overload.Standing

/-!
# The candidates that fit best

A search keeps one leader and forgets what came before whenever a better candidate takes the place.
So the candidates that fit worse than the best ones leave no trace, though they are compared with
one another, and may lead and tie, before a better one comes: what a search finds among all
candidates, it finds among those that fit best.  And a candidate that fits best and beats all others
that do is found wherever it stands: it takes the place when it comes, and no later one takes that
from it.
-/

namespace Declarations

/-- What a search has found: how many candidates share the best place, how well they fit, the winner
and its rival.  Which candidate was the first one is left out. -/
def Resolution.outcome (resolution : Resolution) :
    Nat × MatchLevel × Option DeclId × Option DeclId :=
  (resolution.count, resolution.level, resolution.winner, resolution.rival)

theorem Resolution.outcome_eq_iff {left right : Resolution} :
    left.outcome = right.outcome ↔ left.count = right.count ∧ left.level = right.level ∧
      left.winner = right.winner ∧ left.rival = right.rival := by
  simp [outcome]

namespace Arena

def fitsAsWell (arena : Arena) (oracle : MatchOracle) (object : Option TypeRef)
    (arguments : List Argument) (candidate other : DeclId) : Bool :=
  match arena.fit oracle object arguments other, arena.fit oracle object arguments candidate with
  | .ok otherLevel, .ok level => otherLevel ≤ level
  | _, _ => false

/-- The candidates that none of the others fits better, in the order of the tour. -/
def bestFitting (arena : Arena) (oracle : MatchOracle) (object : Option TypeRef)
    (arguments : List Argument) (functions : List DeclId) : List DeclId :=
  functions.filter fun candidate =>
    functions.all (arena.fitsAsWell oracle object arguments candidate)

variable {arena : Arena} {oracle : MatchOracle} {object : Option TypeRef}
  {arguments : List Argument} {functions passed : List DeclId} {candidate winner : DeclId}
  {resolution left right next : Resolution} {level : MatchLevel}
  {templateArguments : Option (List TemplateArgument)}

/-- The candidates that fit best are those of the best level. -/
theorem bestFitting_eq_fitting
    (hle : ∀ function ∈ functions, ∃ other,
      arena.fit oracle object arguments function = .ok other ∧ other ≤ level)
    (hbest : ∃ function ∈ functions, arena.fit oracle object arguments function = .ok level) :
    arena.bestFitting oracle object arguments functions =
      arena.fitting oracle object arguments level functions := by
  obtain ⟨best, hmem, hbest⟩ := hbest
  refine List.filter_congr fun candidate hcandidate => ?_
  obtain ⟨fitted, hfitted, hbound⟩ := hle candidate hcandidate
  rw [Bool.eq_iff_iff, List.all_eq_true, decide_eq_true_iff, hfitted]
  constructor
  · intro hall
    have hbeaten : level ≤ fitted := by simpa [fitsAsWell, hbest, hfitted] using hall best hmem
    rw [MatchLevel.eq_of_le_of_le hbound hbeaten]
    rfl
  · intro hsame function hfunction
    obtain rfl : fitted = level := by simpa [Except.toOption] using hsame
    obtain ⟨other, hother, hle⟩ := hle function hfunction
    simpa [fitsAsWell, hother, hfitted] using hle

/-! ## What a search forgets -/

/-- Searches that have found the same go on to find the same when a candidate challenges the
winner. -/
theorem challenge_alike (candidate : DeclId) (level : MatchLevel)
    (houtcome : left.outcome = right.outcome) :
    Alike Resolution.outcome (arena.challenge oracle left candidate level)
      (arena.challenge oracle right candidate level) := by
  obtain ⟨hcount, hlevel, hwinner, hrival⟩ := Resolution.outcome_eq_iff.mp houtcome
  rw [challenge, challenge, hwinner, hlevel]
  cases right.winner with
  | none => exact .ok rfl
  | some holder =>
    cases level.order right.level with
    | gt => exact .ok rfl
    | lt => exact .ok houtcome
    | eq =>
      apply Alike.bind_same
      intro order
      cases order with
      | gt => exact .ok rfl
      | lt => exact .ok houtcome
      | eq => exact .ok (by simp [Resolution.outcome, Resolution.tie, hcount, hlevel, hwinner])

theorem consider_alike (candidate : DeclId) (houtcome : left.outcome = right.outcome) :
    Alike Resolution.outcome (arena.consider oracle object arguments left candidate)
      (arena.consider oracle object arguments right candidate) := by
  have hmeet : (left.meet candidate).outcome = (right.meet candidate).outcome := houtcome
  rw [consider_eq, consider_eq]
  apply Alike.bind_same
  intro level
  split
  · exact .ok hmeet
  · exact challenge_alike candidate level hmeet

/-- A search has found the same among the candidates that fit as well as its winner. -/
def Distils (arena : Arena) (oracle : MatchOracle) (object : Option TypeRef)
    (arguments : List Argument) (passed : List DeclId) (resolution : Resolution) : Prop :=
  Alike Resolution.outcome (.ok resolution)
    ((arena.fitting oracle object arguments resolution.level passed).foldlM
      (arena.consider oracle object arguments) {})

namespace Distils

/-- A candidate that fits worse is left out. -/
theorem pass (hdistils : arena.Distils oracle object arguments passed resolution)
    (hfit : arena.fit oracle object arguments candidate = .ok level)
    (hlevel : level ≠ resolution.level) :
    arena.Distils oracle object arguments (passed ++ [candidate])
      (resolution.meet candidate) := by
  have hfitting : arena.fitting oracle object arguments resolution.level (passed ++ [candidate]) =
      arena.fitting oracle object arguments resolution.level passed := by
    rw [fitting_append hfit, if_neg hlevel, List.append_nil]
  unfold Distils at hdistils ⊢
  rwa [← hfitting] at hdistils

/-- A candidate that fits better than all before it starts afresh. -/
theorem take (hfit : arena.fit oracle object arguments candidate = .ok level)
    (hlevel : level ≠ .noMatch)
    (hpassed : ∀ function ∈ passed, arena.fit oracle object arguments function ≠ .ok level)
    (resolution : Resolution) :
    arena.Distils oracle object arguments (passed ++ [candidate])
      (resolution.take candidate level) := by
  have hfitting : arena.fitting oracle object arguments (resolution.take candidate level).level
      (passed ++ [candidate]) = [candidate] := fitting_append_of_better hfit hpassed
  unfold Distils
  rw [hfitting, List.foldlM_cons, consider_eq, hfit, ok_bind, if_neg hlevel]
  exact .ok rfl

/-- A candidate that fits as well as the winner is compared with it in both searches. -/
theorem compete (hdistils : arena.Distils oracle object arguments passed resolution)
    (hfit : arena.fit oracle object arguments candidate = .ok resolution.level)
    (hconsider : arena.consider oracle object arguments resolution candidate = .ok next)
    (hlevel : next.level = resolution.level) :
    arena.Distils oracle object arguments (passed ++ [candidate]) next := by
  have hboth : Alike Resolution.outcome
      (.ok resolution >>= fun found => arena.consider oracle object arguments found candidate)
      ((arena.fitting oracle object arguments resolution.level passed).foldlM
          (arena.consider oracle object arguments) {} >>=
        fun found => arena.consider oracle object arguments found candidate) :=
    hdistils.bind fun _ _ => consider_alike candidate
  unfold Distils
  rw [hlevel, fitting_append hfit, if_pos rfl, List.foldlM_append]
  simpa only [ok_bind, hconsider, List.foldlM_cons, List.foldlM_nil, bind_pure] using hboth

/-- One candidate. -/
theorem consider (hdistils : arena.Distils oracle object arguments passed resolution)
    (hstands : arena.Stands oracle object arguments passed resolution)
    (hconsider : arena.consider oracle object arguments resolution candidate = .ok next) :
    arena.Distils oracle object arguments (passed ++ [candidate]) next := by
  have hweighed := weighed_of_consider hconsider
  cases hstands with
  | unmatched fit_eq winner_eq =>
    cases hweighed with
    | passed candidate_fit_eq =>
      by_cases hnone : resolution.level = .noMatch
      · exact hdistils.compete (hnone ▸ candidate_fit_eq) hconsider rfl
      · exact hdistils.pass candidate_fit_eq fun hlevel => hnone hlevel.symm
    | entered _ candidate_fit_eq level_ne =>
      refine .take candidate_fit_eq level_ne (fun function hmem hsame => ?_) _
      rw [fit_eq function hmem, Except.ok.injEq] at hsame
      exact level_ne hsame.symm
    | taken holder_eq | kept holder_eq | tied holder_eq => simp [winner_eq] at holder_eq
  | matched level_ne fit_le winner_eq =>
    cases hweighed with
    | passed fit_eq => exact hdistils.pass fit_eq level_ne.symm
    | entered none_eq => simp [winner_eq] at none_eq
    | taken _ fit_eq candidate_level_ne better =>
      obtain hbetter | ⟨rfl, -⟩ := better
      · refine .take fit_eq candidate_level_ne (fun function hmem hsame => ?_) _
        obtain ⟨other, hother, hle⟩ := fit_le function hmem
        obtain rfl := Except.ok.inj (hother.symm.trans hsame)
        exact (MatchLevel.not_le_of_order_eq_gt hbetter).2 hle
      · exact hdistils.compete fit_eq hconsider rfl
    | kept _ fit_eq worse =>
      obtain hworse | ⟨rfl, -⟩ := worse
      · exact hdistils.pass fit_eq (MatchLevel.le_of_order_eq_lt hworse).2
      · exact hdistils.compete fit_eq hconsider rfl
    | tied _ fit_eq => exact hdistils.compete fit_eq hconsider rfl

/-- A search through candidates. -/
theorem foldlM (hdistils : arena.Distils oracle object arguments passed resolution)
    (hstands : arena.Stands oracle object arguments passed resolution)
    (hsearch : functions.foldlM (arena.consider oracle object arguments) resolution = .ok next) :
    arena.Distils oracle object arguments (passed ++ functions) next := by
  induction functions generalizing passed resolution with
  | nil =>
    obtain rfl := Except.ok.inj hsearch
    rwa [List.append_nil]
  | cons candidate functions ih =>
    rw [List.foldlM_cons] at hsearch
    obtain ⟨middle, hconsider, hrest⟩ := bind_eq_ok_iff.mp hsearch
    rw [List.append_cons]
    exact ih (hdistils.consider hstands hconsider) (hstands.consider hconsider) hrest

end Distils

/-- What a search finds among all candidates, it finds among those that fit best. -/
theorem foldlM_consider_bestFitting
    (hsearch : functions.foldlM (arena.consider oracle object arguments) {} = .ok resolution) :
    Alike Resolution.outcome (.ok resolution)
      ((arena.bestFitting oracle object arguments functions).foldlM
        (arena.consider oracle object arguments) {}) := by
  have hstands : arena.Stands oracle object arguments functions resolution :=
    Stands.nil.foldlM hsearch
  cases hstands with
  | unmatched fit_eq =>
    have hall : arena.bestFitting oracle object arguments functions = functions := by
      refine List.filter_eq_self.mpr fun candidate hcandidate => ?_
      rw [List.all_eq_true]
      intro other hother
      have hcandidateFit := fit_eq candidate hcandidate
      have hotherFit := fit_eq other hother
      rw [fitsAsWell, hotherFit, hcandidateFit]
      rfl
    rw [hall, hsearch]
    exact .refl _
  | matched level_ne fit_le winner_eq leads =>
    have hstart : arena.Distils oracle object arguments [] {} := .refl _
    have hbest := mem_fitting.mp leads.mem
    rw [bestFitting_eq_fitting fit_le ⟨_, hbest⟩]
    exact hstart.foldlM .nil hsearch

/-- Candidates that fit worse than the best ones are irrelevant to a call, wherever they stand: the
search comes out as a search of the best ones does. -/
theorem Closed.resolve_bestFitting (hclosed : arena.Closed) {start : DeclId}
    (hstart : start.number < arena.size) (oracle : MatchOracle)
    (templateArguments : Option (List TemplateArgument)) (object : Option TypeRef)
    (arguments : List Argument) :
    ∃ functions resolution selected, arena.candidates start = .ok functions ∧
      arena.resolve oracle start templateArguments object arguments = .ok resolution ∧
      (arena.bestFitting oracle object arguments functions).foldlM
        (arena.weigh oracle templateArguments object arguments) {} = .ok selected ∧
      resolution.outcome = selected.outcome := by
  cases hinstantiates : instantiates templateArguments with
  | true =>
    obtain ⟨functions, hcandidates, -, -, hsearch⟩ := hclosed.exists_search hstart
    have hresolve := hsearch oracle templateArguments object arguments
    rw [foldlM_weigh_of_instantiates hinstantiates] at hresolve
    exact ⟨functions, _, _, hcandidates, hresolve, foldlM_weigh_of_instantiates hinstantiates, rfl⟩
  | false =>
    obtain ⟨functions, resolution, hcandidates, -, -, hresolve, hsearch⟩ :=
      hclosed.exists_considered hstart oracle hinstantiates object arguments
    have halike := foldlM_consider_bestFitting hsearch
    rw [← weigh_eq_consider hinstantiates] at halike
    cases hselected : (arena.bestFitting oracle object arguments functions).foldlM
        (arena.weigh oracle templateArguments object arguments) {} with
    | error fault => simp [Alike, hselected] at halike
    | ok selected =>
      refine ⟨functions, resolution, selected, hcandidates, hresolve, hselected, ?_⟩
      simpa [Alike, hselected] using halike

/-- Type 9 fits the types 2 and 3 better than type 1, and type 3 converts to type 2. -/
def closerConversionsOfNine : ConversionTable where
  conversions := [⟨⟨9⟩, ⟨1⟩, .conversion⟩, ⟨⟨9⟩, ⟨2⟩, .constConversion⟩,
    ⟨⟨9⟩, ⟨3⟩, .constConversion⟩, ⟨⟨3⟩, ⟨2⟩, .conversion⟩]

theorem Closed.resolve_bestFitting_threeOverloads :
    threeOverloads.Closed ∧ (0 : Nat) < threeOverloads.size ∧
    threeOverloads.bestFitting closerConversionsOfNine.oracle none [⟨⟨9⟩, none, false⟩]
      [⟨0⟩, ⟨1⟩, ⟨2⟩] = [⟨1⟩, ⟨2⟩] ∧
    ∃ functions resolution selected, threeOverloads.candidates ⟨0⟩ = .ok functions ∧
      threeOverloads.resolve closerConversionsOfNine.oracle ⟨0⟩ none none
        [⟨⟨9⟩, none, false⟩] = .ok resolution ∧
      (threeOverloads.bestFitting closerConversionsOfNine.oracle none [⟨⟨9⟩, none, false⟩]
        functions).foldlM (threeOverloads.weigh closerConversionsOfNine.oracle none none
          [⟨⟨9⟩, none, false⟩]) {} = .ok selected ∧
      resolution.outcome = selected.outcome := by
  have hclosed : threeOverloads.Closed := by decide
  exact ⟨hclosed, by decide, rfl, hclosed.resolve_bestFitting (by decide)
    closerConversionsOfNine.oracle none none [⟨⟨9⟩, none, false⟩]⟩

/-! ## A candidate that beats all others -/

/-- The candidate fits the call, no candidate fits better, and it beats all others that fit as well.
They lose to it in the other order then, too. -/
structure Dominates (arena : Arena) (oracle : MatchOracle) (object : Option TypeRef)
    (arguments : List Argument) (functions : List DeclId) (winner : DeclId) (level : MatchLevel) :
    Prop where
  mem : winner ∈ functions
  fit_eq : arena.fit oracle object arguments winner = .ok level
  level_ne : level ≠ .noMatch
  fit_le : ∀ function ∈ functions, ∀ other,
    arena.fit oracle object arguments function = .ok other → other ≤ level
  beats : ∀ function ∈ functions, function ≠ winner →
    arena.fit oracle object arguments function = .ok level →
      arena.breakTie oracle winner function = .ok .gt

/-- Who dominates the candidates leads alone those that fit best. -/
theorem Dominates.leads (hclosed : arena.Closed) (hnodup : functions.Nodup)
    (hfunctions : ∀ function ∈ functions, arena.IsFunction function)
    (hdominates : arena.Dominates oracle object arguments functions winner level) :
    arena.Leads oracle (arena.fitting oracle object arguments level functions) winner 1 := by
  have hmem : winner ∈ arena.fitting oracle object arguments level functions :=
    mem_fitting.mpr ⟨hdominates.mem, hdominates.fit_eq⟩
  have hbeats : ∀ function ∈ arena.fitting oracle object arguments level functions,
      function ≠ winner → arena.breakTie oracle winner function = .ok .gt := by
    intro function hfitting hne
    obtain ⟨hfunction, hfit⟩ := mem_fitting.mp hfitting
    exact hdominates.beats function hfunction hne hfit
  have hfittingNodup : (arena.fitting oracle object arguments level functions).Nodup :=
    hnodup.filter _
  rw [hclosed.leads_one_iff oracle fun function hfitting =>
    (hfunctions function (mem_fitting.mp hfitting).1).lt]
  obtain ⟨earlier, later, hsplit⟩ := List.append_of_mem hmem
  rw [hsplit] at hbeats hfittingNodup
  have hother : winner ∉ earlier ++ later := (List.nodup_cons.mp
    (List.nodup_middle.mp hfittingNodup)).1
  refine ⟨earlier, later, hsplit, fun leader count hleads => ?_, fun function hlater => ?_⟩
  · have hleader : leader ∈ earlier := hleads.mem
    refine hbeats leader (List.mem_append_left _ hleader) ?_
    rintro rfl
    exact hother (List.mem_append_left later hleader)
  · refine breakTie_swap (hbeats function (by simp [hlater]) ?_)
    rintro rfl
    exact hother (List.mem_append_right earlier hlater)

/-- A candidate that dominates all others wins the call, wherever it stands. -/
theorem Closed.resolve_of_dominates (hclosed : arena.Closed) {start : DeclId}
    (hstart : start.number < arena.size) (hplain : instantiates templateArguments = false)
    (hcandidates : arena.candidates start = .ok functions)
    (hdominates : arena.Dominates oracle object arguments functions winner level) :
    arena.resolve oracle start templateArguments object arguments =
      .ok { count := 1, level, winner := some winner, rival := none,
            first := functions.head? } := by
  obtain ⟨_, resolution, hsame, hnodup, hfunctions, hresolve, hsearch⟩ :=
    hclosed.exists_considered hstart oracle hplain object arguments
  obtain rfl := Except.ok.inj (hcandidates.symm.trans hsame)
  have hfit_le : ∀ function ∈ functions, ∃ other,
      arena.fit oracle object arguments function = .ok other ∧ other ≤ level := by
    intro function hmem
    obtain ⟨other, hother⟩ := hclosed.fit (hfunctions function hmem).lt oracle object arguments
    exact ⟨other, hother, hdominates.fit_le function hmem other hother⟩
  have hbest : resolution.best? = some winner := by
    have hstands : arena.Stands oracle object arguments functions resolution :=
      Stands.nil.foldlM hsearch
    exact hstands.best?_eq_some_iff.mpr
      ⟨level, hdominates.level_ne, hfit_le, hdominates.leads hclosed hnodup hfunctions⟩
  have hcoherent : arena.Coherent oracle object arguments functions resolution :=
    Coherent.nil.foldlM hnodup hsearch
  simp only [Resolution.best?, Option.ite_none_right_eq_some] at hbest
  cases hcoherent with
  | unmatched => simp at hbest
  | @matched _ leader first_eq wins =>
    obtain ⟨hcount, hwinner⟩ := hbest
    obtain rfl : leader = winner := Option.some.inj (wins.winner_eq.symm.trans hwinner)
    have hlevel : resolution.level = level :=
      Except.ok.inj (wins.fit_eq.symm.trans hdominates.fit_eq)
    rw [hresolve, wins.eq_of_count_eq_one hcount, hlevel, first_eq]

/-- The last two functions fit better than the first one, and the third one beats the second one. -/
theorem dominates_threeOverloads :
    threeOverloads.Dominates closerConversionsOfNine.oracle none [⟨⟨9⟩, none, false⟩]
      [⟨0⟩, ⟨1⟩, ⟨2⟩] ⟨2⟩ .constConversion where
  mem := by decide
  fit_eq := rfl
  level_ne := by decide
  fit_le := by
    have hfirst : threeOverloads.fit closerConversionsOfNine.oracle none [⟨⟨9⟩, none, false⟩] ⟨0⟩ =
        .ok .conversion := rfl
    have hsecond : threeOverloads.fit closerConversionsOfNine.oracle none
        [⟨⟨9⟩, none, false⟩] ⟨1⟩ = .ok .constConversion := rfl
    have hthird : threeOverloads.fit closerConversionsOfNine.oracle none
        [⟨⟨9⟩, none, false⟩] ⟨2⟩ = .ok .constConversion := rfl
    simp only [List.forall_mem_cons, hfirst, hsecond, hthird, Except.ok.injEq, forall_eq']
    exact ⟨by decide, by decide, by decide, by simp⟩
  beats := by
    have hfirst : threeOverloads.fit closerConversionsOfNine.oracle none [⟨⟨9⟩, none, false⟩] ⟨0⟩ =
        .ok .conversion := rfl
    have hbeats : threeOverloads.breakTie closerConversionsOfNine.oracle ⟨2⟩ ⟨1⟩ = .ok .gt := rfl
    simp [hfirst, hbeats]

theorem Closed.resolve_of_dominates_threeOverloads :
    threeOverloads.Closed ∧ (0 : Nat) < threeOverloads.size ∧ instantiates none = false ∧
    threeOverloads.candidates ⟨0⟩ = .ok [⟨0⟩, ⟨1⟩, ⟨2⟩] ∧
    threeOverloads.Dominates closerConversionsOfNine.oracle none [⟨⟨9⟩, none, false⟩]
      [⟨0⟩, ⟨1⟩, ⟨2⟩] ⟨2⟩ .constConversion ∧
    threeOverloads.resolve closerConversionsOfNine.oracle ⟨0⟩ none none [⟨⟨9⟩, none, false⟩] =
      .ok { count := 1, level := .constConversion, winner := some ⟨2⟩, rival := none,
            first := some ⟨0⟩ } := by
  have hclosed : threeOverloads.Closed := by decide
  exact ⟨hclosed, by decide, rfl, rfl, dominates_threeOverloads,
    hclosed.resolve_of_dominates (by decide) rfl rfl dominates_threeOverloads⟩

end Arena

end Declarations
