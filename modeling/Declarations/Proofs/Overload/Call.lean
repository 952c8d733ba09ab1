import Declarations.Overload.Call
import Declarations.Proofs.Overload.Standing

/-!
# What a call is answered

A call is answered from the record of a search: the winner, the rival, and how many candidates share
the best place.  Because these agree with one another, there are four answers and each one has a
reason of its own.  In particular, a call that two functions fit equally well never goes to one of
them.
-/

namespace Declarations

namespace Arena

def IsDisabled (arena : Arena) (id : DeclId) : Prop :=
  ∃ declaration, arena.get id = .ok declaration ∧ declaration.isDisabled = true

/-- The declaration may be used at the place: it is not disabled, or the function that the place is
in is disabled as well. -/
def UsableAt (arena : Arena) (site : UseSite) (id : DeclId) : Prop :=
  arena.IsDisabled id → ∃ function ∈ site.function, arena.IsDisabled function

/-- The answer to a call follows from whether a candidate fits, from the record of the search, and
from whether the single winner may be used. -/
structure AnswersCall (arena : Arena) (start : DeclId) (site : UseSite) (nothingFits : Prop)
    (resolution : Resolution) (answer : Except DeclError DeclId) : Prop where
  noMatching_iff :
    answer = .error (.noMatchingOverload start site.span resolution.first) ↔ nothingFits
  ambiguous_iff : ∀ winner rival,
    answer = .error (.ambiguousOverload start site.span winner rival) ↔
      2 ≤ resolution.count ∧ resolution.winner = some winner ∧ resolution.rival = some rival
  disabled_iff : ∀ winner,
    answer = .error (.disabled winner site.span) ↔
      resolution.best? = some winner ∧ ¬arena.UsableAt site winner
  ok_iff : ∀ winner,
    answer = .ok winner ↔ resolution.best? = some winner ∧ arena.UsableAt site winner

variable {arena : Arena} {oracle : MatchOracle} {object : Option TypeRef}
  {templateArguments : Option (List TemplateArgument)} {arguments : List Argument}
  {functions : List DeclId} {resolution : Resolution} {start id winner rival : DeclId}
  {declaration : Declaration} {site : UseSite}

theorem isDisabled_iff (hget : arena.get id = .ok declaration) :
    arena.IsDisabled id ↔ declaration.isDisabled = true := by
  simp [IsDisabled, hget]

/-- Whether a place is inside a disabled function can be said when the function can be read. -/
theorem exists_isDisabledSite (hsite : ∀ function ∈ site.function, function.number < arena.size) :
    ∃ disabled, arena.isDisabledSite site = .ok disabled ∧
      (disabled = true ↔ ∃ function ∈ site.function, arena.IsDisabled function) := by
  cases hfunction : site.function with
  | none => exact ⟨false, by simp [isDisabledSite, hfunction], by simp⟩
  | some function =>
    obtain ⟨declaration, hget⟩ := exists_get (hsite function hfunction)
    refine ⟨declaration.isDisabled, by simp [isDisabledSite, hfunction, hget], ?_⟩
    simp [isDisabled_iff hget]

/-- The check of one declaration accepts just those that may be used. -/
theorem checkUsable_single (hid : id.number < arena.size)
    (hsite : ∀ function ∈ site.function, function.number < arena.size) :
    (arena.UsableAt site id → arena.checkUsable id site false = .ok (.ok ())) ∧
      (¬arena.UsableAt site id →
        arena.checkUsable id site false = .ok (.error (.disabled id site.span))) := by
  obtain ⟨declaration, hget⟩ := exists_get hid
  obtain ⟨inside, hinside, hiff⟩ := exists_isDisabledSite hsite
  simp only [UsableAt, isDisabled_iff hget, ← hiff, checkUsable, hget, hinside, ok_bind]
  cases declaration.isDisabled <;> cases inside <;> simp

/-! ## The four answers -/

/-- A search that no candidate fits. -/
theorem AnswersCall.of_nothingFits {nothingFits : Prop} (hnothing : nothingFits)
    (hcount : resolution.count = 0) :
    arena.AnswersCall start site nothingFits resolution
      (.error (.noMatchingOverload start site.span resolution.first)) where
  noMatching_iff := by simpa using hnothing
  ambiguous_iff := by simp [hcount]
  disabled_iff := by simp [Resolution.best?, hcount]
  ok_iff := by simp [Resolution.best?, hcount]

/-- A search with several candidates at the best place. -/
theorem AnswersCall.of_rival {nothingFits : Prop} (hfits : ¬nothingFits)
    (hcount : 2 ≤ resolution.count) (hwinner : resolution.winner = some winner)
    (hrival : resolution.rival = some rival) :
    arena.AnswersCall start site nothingFits resolution
      (.error (.ambiguousOverload start site.span winner rival)) := by
  have hbest : resolution.best? = none := if_neg (by omega)
  constructor
  · simpa using hfits
  · simp [hcount, hwinner, hrival]
  · simp [hbest]
  · simp [hbest]

/-- A search with one winner. -/
theorem AnswersCall.of_single {nothingFits : Prop} {answer : Except DeclError DeclId}
    (hfits : ¬nothingFits) (hcount : resolution.count = 1)
    (hwinner : resolution.winner = some winner)
    (husable : arena.UsableAt site winner → answer = .ok winner)
    (hunusable : ¬arena.UsableAt site winner → answer = .error (.disabled winner site.span)) :
    arena.AnswersCall start site nothingFits resolution answer := by
  have hbest : resolution.best? = some winner := by rw [Resolution.best?, if_pos hcount, hwinner]
  by_cases hplace : arena.UsableAt site winner
  · obtain rfl := husable hplace
    constructor
    · simpa using hfits
    · simp [hcount]
    · rintro other
      simp only [hbest, Option.some.injEq, reduceCtorEq, false_iff, not_and, not_not]
      rintro rfl
      exact hplace
    · rintro other
      simp only [hbest, Except.ok.injEq, Option.some.injEq, iff_self_and]
      rintro rfl
      exact hplace
  · obtain rfl := hunusable hplace
    constructor
    · simpa using hfits
    · simp [hcount]
    · rintro other
      simp only [hbest, Except.error.injEq, DeclError.disabled.injEq, and_true,
        Option.some.injEq, iff_self_and]
      rintro rfl
      exact hplace
    · rintro other
      simp only [hbest, Option.some.injEq, reduceCtorEq, false_iff, not_and]
      rintro rfl
      exact hplace

/-! ## Calls -/

/-- A record with a winner answers a call. -/
theorem HasWinner.exists_answer {nothingFits : Prop} (hfits : ¬nothingFits)
    (hwins : arena.HasWinner oracle object arguments functions resolution winner)
    (hresolve : arena.resolve oracle start templateArguments object arguments = .ok resolution)
    (hwinner : winner.number < arena.size)
    (hsite : ∀ function ∈ site.function, function.number < arena.size) :
    ∃ answer, arena.resolveCall oracle start templateArguments object arguments site = .ok answer ∧
      arena.AnswersCall start site nothingFits resolution answer := by
  simp only [resolveCall, hresolve, ok_bind, hwins.winner_eq]
  by_cases hcount : 2 ≤ resolution.count
  · obtain ⟨rival, hrival⟩ := Option.isSome_iff_exists.mp (hwins.rival_iff.mpr hcount)
    refine ⟨_, ?_, .of_rival hfits hcount hwins.winner_eq hrival⟩
    have hkept : resolution.rival.filter (fun _ => resolution.isAmbiguous) = some rival := by
      simp [hrival, Resolution.isAmbiguous, hcount]
    simp only [hkept, pure_eq_ok]
  · have halone : resolution.count = 1 := by
      have hpos := hwins.count_pos
      omega
    have hsingle := checkUsable_single hwinner hsite
    have hrival : resolution.rival.filter (fun _ => resolution.isAmbiguous) = none := by
      simp [Resolution.isAmbiguous, hcount]
    simp only [hrival]
    by_cases hplace : arena.UsableAt site winner
    · refine ⟨.ok winner, by simp [hsingle.1 hplace, Except.map], ?_⟩
      exact .of_single hfits halone hwins.winner_eq (fun _ => rfl) (fun hnot => absurd hplace hnot)
    · refine ⟨.error (.disabled winner site.span), by simp [hsingle.2 hplace, Except.map], ?_⟩
      exact .of_single hfits halone hwins.winner_eq (fun husable => absurd husable hplace)
        (fun _ => rfl)

/-- The record of a search is coherent, and a call is answered as it says.  It notes the first
candidate.  If nothing fits, it notes nothing else.  Otherwise it names a candidate of the best
level, and another one that ties with it exactly if it counts at least two. -/
theorem Closed.resolveCall_answers (hclosed : arena.Closed) (hstart : start.number < arena.size)
    (oracle : MatchOracle) (templateArguments : Option (List TemplateArgument))
    (object : Option TypeRef) (arguments : List Argument)
    (hsite : ∀ function ∈ site.function, function.number < arena.size) :
    ∃ functions resolution answer, arena.candidates start = .ok functions ∧
      arena.resolve oracle start templateArguments object arguments = .ok resolution ∧
      arena.resolveCall oracle start templateArguments object arguments site = .ok answer ∧
      resolution.first = functions.head? ∧
      (arena.NothingFits oracle templateArguments object arguments functions →
        resolution.count = 0 ∧ resolution.level = .noMatch ∧ resolution.winner = none ∧
          resolution.rival = none) ∧
      (¬arena.NothingFits oracle templateArguments object arguments functions →
        ∃ winner, arena.HasWinner oracle object arguments functions resolution winner) ∧
      arena.AnswersCall start site
        (arena.NothingFits oracle templateArguments object arguments functions) resolution
        answer := by
  obtain ⟨functions, resolution, hcandidates, hfunctions, hresolve, hfirst, hnone, hwinner⟩ :=
    hclosed.exists_standing hstart oracle templateArguments object arguments
  by_cases hnothing : arena.NothingFits oracle templateArguments object arguments functions
  · obtain rfl := hnone hnothing
    refine ⟨functions, _, .error (.noMatchingOverload start site.span functions.head?),
      hcandidates, hresolve, ?_, hfirst, fun _ => ⟨rfl, rfl, rfl, rfl⟩,
      fun hfits => absurd hnothing hfits, .of_nothingFits hnothing rfl⟩
    simp [resolveCall, hresolve]
  · obtain ⟨winner, hwins⟩ := hwinner hnothing
    obtain ⟨declaration, hget, -⟩ := hfunctions winner hwins.winner_mem
    obtain ⟨answer, hanswer, hanswers⟩ :=
      hwins.exists_answer hnothing hresolve (lt_of_get hget) hsite
    exact ⟨functions, resolution, answer, hcandidates, hresolve, hanswer, hfirst,
      fun hnone => absurd hnone hnothing, fun _ => ⟨winner, hwins⟩, hanswers⟩

theorem Closed.resolveCall_answers_threeOverloads :
    threeOverloads.Closed ∧ (0 : Nat) < threeOverloads.size ∧
    ∃ functions resolution answer, threeOverloads.candidates ⟨0⟩ = .ok functions ∧
      threeOverloads.resolve conversionsOfNine.oracle ⟨0⟩ none none [⟨⟨9⟩, none, false⟩] =
        .ok resolution ∧
      threeOverloads.resolveCall conversionsOfNine.oracle ⟨0⟩ none none [⟨⟨9⟩, none, false⟩]
        ⟨some ⟨1⟩, .synthetic⟩ = .ok answer ∧
      resolution.first = functions.head? ∧
      (threeOverloads.NothingFits conversionsOfNine.oracle none none [⟨⟨9⟩, none, false⟩]
          functions →
        resolution.count = 0 ∧ resolution.level = .noMatch ∧ resolution.winner = none ∧
          resolution.rival = none) ∧
      (¬threeOverloads.NothingFits conversionsOfNine.oracle none none [⟨⟨9⟩, none, false⟩]
          functions →
        ∃ winner, threeOverloads.HasWinner conversionsOfNine.oracle none [⟨⟨9⟩, none, false⟩]
          functions resolution winner) ∧
      threeOverloads.AnswersCall ⟨0⟩ ⟨some ⟨1⟩, .synthetic⟩
        (threeOverloads.NothingFits conversionsOfNine.oracle none none [⟨⟨9⟩, none, false⟩]
          functions) resolution answer := by
  have hclosed : threeOverloads.Closed := by decide
  exact ⟨hclosed, by decide, hclosed.resolveCall_answers (by decide) conversionsOfNine.oracle none
    none [⟨⟨9⟩, none, false⟩] (by decide)⟩

/-- The third function of the three wins the call. -/
example : threeOverloads.resolveCall conversionsOfNine.oracle ⟨0⟩ none none
    [⟨⟨9⟩, none, false⟩] ⟨none, .synthetic⟩ = .ok (.ok ⟨2⟩) :=
  rfl

end Arena

end Declarations
