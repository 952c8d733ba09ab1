import Declarations.Overload.Resolution
import Declarations.Proofs.Overload.Tour

/-!
# The search for the best function

Resolution goes through the functions of an overload set one after the other.  In a closed arena
each of them can be weighed against the best one so far, so a call always gets an answer.
-/

namespace Declarations

namespace Arena

/-- How well a candidate fits a call; what is no function does not fit. -/
def fit (arena : Arena) (oracle : MatchOracle) (object : Option TypeRef)
    (arguments : List Argument) (candidate : DeclId) : Except Fault MatchLevel := do
  match ← arena.signature? candidate with
  | none => return .noMatch
  | some signature => return oracle signature arguments (← arena.objectFor candidate object)

/-- Takes one candidate of a call into account that may give arguments to a template. -/
def weigh (arena : Arena) (oracle : MatchOracle)
    (templateArguments : Option (List TemplateArgument)) (object : Option TypeRef)
    (arguments : List Argument) (resolution : Resolution) (candidate : DeclId) :
    Except Fault Resolution :=
  if instantiates templateArguments then
    .ok (resolution.meet candidate)
  else
    arena.consider oracle object arguments resolution candidate

variable {arena : Arena} {oracle : MatchOracle} {id source target candidate : DeclId}
  {object : Option TypeRef} {arguments : List Argument} {resolution : Resolution}

/-- A candidate that fits is compared with the best one so far. -/
theorem consider_eq :
    arena.consider oracle object arguments resolution candidate =
      arena.fit oracle object arguments candidate >>= fun level =>
        if level = .noMatch then .ok (resolution.meet candidate)
        else arena.challenge oracle (resolution.meet candidate) candidate level := by
  rw [consider, fit]
  cases arena.signature? candidate with
  | error fault => rfl
  | ok given =>
    cases given with
    | none => rfl
    | some signature => cases arena.objectFor candidate object <;> rfl

theorem weigh_eq_consider {templateArguments : Option (List TemplateArgument)}
    (hplain : instantiates templateArguments = false) :
    arena.weigh oracle templateArguments object arguments =
      arena.consider oracle object arguments := by
  funext resolution candidate
  rw [weigh, if_neg (by simp [hplain])]

/-! ## Every question about a candidate has an answer -/

theorem Closed.needsObject (hclosed : arena.Closed) (hid : id.number < arena.size) :
    ∃ needed, arena.needsObject id = .ok needed := by
  obtain ⟨declaration, hget⟩ := exists_get hid
  obtain ⟨function, halias, hfunction⟩ := hclosed.aliasedFunction hid
  obtain ⟨resolved, hresolved⟩ := exists_get hfunction
  cases hentity : declaration.entity <;>
    simp [Arena.needsObject, hget, hentity, halias, hresolved]

theorem exists_signature? (hid : id.number < arena.size) :
    ∃ given, arena.signature? id = .ok given := by
  obtain ⟨declaration, hget⟩ := exists_get hid
  exact ⟨declaration.signature? id, by simp [signature?, hget]⟩

theorem Closed.objectFor (hclosed : arena.Closed) (hid : id.number < arena.size)
    (object : Option TypeRef) : ∃ passed, arena.objectFor id object = .ok passed := by
  obtain ⟨declaration, hget⟩ := exists_get hid
  refine exists_ok_bind (hclosed.needsObject hid) fun needed _ => ?_
  cases needed <;> cases hctor : declaration.isConstructor <;> simp [hget, hctor]

theorem Closed.fit (hclosed : arena.Closed) (hcandidate : candidate.number < arena.size)
    (oracle : MatchOracle) (object : Option TypeRef) (arguments : List Argument) :
    ∃ level, arena.fit oracle object arguments candidate = .ok level := by
  refine exists_ok_bind (exists_signature? hcandidate) fun given _ => ?_
  cases given with
  | none => exact ⟨.noMatch, rfl⟩
  | some signature =>
    exact exists_ok_bind (hclosed.objectFor hcandidate object) fun passed _ => ⟨_, rfl⟩

theorem Closed.objectsClash (hclosed : arena.Closed) (hsource : source.number < arena.size)
    (htarget : target.number < arena.size) :
    ∃ clash, arena.objectsClash source target = .ok clash := by
  refine exists_ok_bind (hclosed.needsObject hsource) fun sourceNeeds _ => ?_
  cases sourceNeeds with
  | false => exact ⟨false, rfl⟩
  | true =>
    refine exists_ok_bind (hclosed.needsObject htarget) fun targetNeeds _ => ?_
    cases targetNeeds with
    | false => exact ⟨false, rfl⟩
    | true =>
      exact exists_ok_bind (exists_get hsource) fun declaration _ =>
        exists_ok_bind (exists_get htarget) fun other _ => ⟨_, rfl⟩

theorem Closed.asSpecialized (hclosed : arena.Closed) (hsource : source.number < arena.size)
    (htarget : target.number < arena.size) (oracle : MatchOracle) :
    ∃ level, arena.asSpecialized oracle source target = .ok level := by
  refine exists_ok_bind (exists_signature? hsource) fun sourceGiven _ =>
    exists_ok_bind (exists_signature? htarget) fun targetGiven _ => ?_
  cases sourceGiven with
  | none => exact ⟨.noMatch, rfl⟩
  | some sourceSignature =>
    cases targetGiven with
    | none => exact ⟨.noMatch, rfl⟩
    | some targetSignature =>
      refine exists_ok_bind (hclosed.objectsClash hsource htarget) fun clash _ => ?_
      split
      · exact ⟨.noMatch, rfl⟩
      · split
        · exact ⟨.noMatch, rfl⟩
        · exact ⟨_, rfl⟩

/-- Two candidates can always be put in order. -/
theorem Closed.breakTie (hclosed : arena.Closed) (hsource : source.number < arena.size)
    (htarget : target.number < arena.size) (oracle : MatchOracle) :
    ∃ order, arena.breakTie oracle source target = .ok order := by
  refine exists_ok_bind (exists_get hsource) fun challenging _ =>
    exists_ok_bind (exists_get htarget) fun holding _ => ?_
  split
  · exact ⟨.lt, rfl⟩
  · split
    · exact ⟨.gt, rfl⟩
    · split
      · exact ⟨_, rfl⟩
      · exact exists_ok_bind (hclosed.asSpecialized hsource htarget oracle) fun forward _ =>
          exists_ok_bind (hclosed.asSpecialized htarget hsource oracle) fun backward _ => ⟨_, rfl⟩

/-! ## The search through the candidates -/

/-- A candidate is compared with the best one, and one of the two is the best one then. -/
theorem Closed.challenge (hclosed : arena.Closed) (hcandidate : candidate.number < arena.size)
    (hwinner : ∀ winner ∈ resolution.winner, winner.number < arena.size) (oracle : MatchOracle)
    (level : MatchLevel) :
    ∃ next, arena.challenge oracle resolution candidate level = .ok next ∧
      ∀ winner ∈ next.winner, winner = candidate ∨ winner ∈ resolution.winner := by
  have htake : ∀ winner ∈ (resolution.take candidate level).winner,
      winner = candidate ∨ winner ∈ resolution.winner := by
    simp [Resolution.take]
  unfold Arena.challenge
  cases hholder : resolution.winner with
  | none =>
    rw [hholder] at htake
    exact ⟨_, rfl, htake⟩
  | some holder =>
    rw [hholder] at htake
    have hkeep : ∀ winner ∈ resolution.winner, winner = candidate ∨ winner ∈ some holder := by
      simp [hholder]
    simp only
    cases level.order resolution.level with
    | gt => exact ⟨_, rfl, htake⟩
    | lt => exact ⟨_, rfl, hkeep⟩
    | eq =>
      obtain ⟨order, horder⟩ := hclosed.breakTie hcandidate (hwinner holder hholder) oracle
      simp only [horder, ok_bind]
      cases order with
      | gt => exact ⟨_, rfl, htake⟩
      | lt => exact ⟨_, rfl, hkeep⟩
      | eq => exact ⟨_, rfl, hkeep⟩

theorem Closed.weigh (hclosed : arena.Closed) (hcandidate : candidate.number < arena.size)
    (hwinner : ∀ winner ∈ resolution.winner, winner.number < arena.size) (oracle : MatchOracle)
    (templateArguments : Option (List TemplateArgument)) (object : Option TypeRef)
    (arguments : List Argument) :
    ∃ next, arena.weigh oracle templateArguments object arguments resolution candidate = .ok next ∧
      ∀ winner ∈ next.winner, winner = candidate ∨ winner ∈ resolution.winner := by
  unfold Arena.weigh
  split
  · exact ⟨_, rfl, fun winner hmem => .inr hmem⟩
  · obtain ⟨level, hlevel⟩ := hclosed.fit hcandidate oracle object arguments
    rw [consider_eq, hlevel, ok_bind]
    split
    · exact ⟨_, rfl, fun winner hmem => .inr hmem⟩
    · have hmet : ∀ winner ∈ (resolution.meet candidate).winner, winner.number < arena.size :=
        hwinner
      exact hclosed.challenge hcandidate hmet oracle level

/-- A call weighs the functions that a tour shows. -/
theorem resolve_eq {start : DeclId} {templateArguments : Option (List TemplateArgument)} :
    arena.resolve oracle start templateArguments object arguments =
      (arena.tour start {} fun resolution candidate => do
        return .yield
          (← arena.weigh oracle templateArguments object arguments resolution candidate))
        >>= fun tour => .ok tour.value := by
  unfold resolve
  congr 2
  funext resolution candidate
  unfold weigh
  split <;> rfl

/-- A call goes through the candidates of its overload set. -/
theorem Closed.exists_search (hclosed : arena.Closed) {start : DeclId}
    (hstart : start.number < arena.size) :
    ∃ functions, arena.candidates start = .ok functions ∧ functions.Nodup ∧
      (∀ function ∈ functions, arena.IsFunction function) ∧
      ∀ oracle templateArguments object arguments,
        arena.resolve oracle start templateArguments object arguments =
          functions.foldlM (arena.weigh oracle templateArguments object arguments) {} := by
  obtain ⟨functions, hcandidates, hnodup, hoffered, htour⟩ := hclosed.exists_candidates hstart
  have hfunctions : ∀ function ∈ functions, arena.IsFunction function := by
    intro function hmem
    obtain ⟨node, -, hoffers⟩ := (hoffered function).mp hmem
    exact hoffers.isFunction
  refine ⟨functions, hcandidates, hnodup, hfunctions, ?_⟩
  intro oracle templateArguments object arguments
  rw [resolve_eq, htour, showEach_yield]
  cases functions.foldlM (arena.weigh oracle templateArguments object arguments) {} <;> rfl

/-- Every call gets an answer. -/
theorem Closed.resolve (hclosed : arena.Closed) {start : DeclId}
    (hstart : start.number < arena.size) (oracle : MatchOracle)
    (templateArguments : Option (List TemplateArgument)) (object : Option TypeRef)
    (arguments : List Argument) :
    ∃ resolution, arena.resolve oracle start templateArguments object arguments =
      .ok resolution := by
  obtain ⟨functions, -, -, hfunctions, hsearch⟩ := hclosed.exists_search hstart
  have hstep : ∀ resolution : Resolution,
      (∀ winner ∈ resolution.winner, winner.number < arena.size) →
      ∀ candidate ∈ functions, ∃ next,
        arena.weigh oracle templateArguments object arguments resolution candidate = .ok next ∧
        arena.weigh oracle templateArguments object arguments resolution candidate = .ok next ∧
        ∀ winner ∈ next.winner, winner.number < arena.size := by
    intro resolution hwinner candidate hmem
    have hcandidate := (hfunctions candidate hmem).lt
    obtain ⟨next, hnext, hbest⟩ := hclosed.weigh hcandidate hwinner oracle templateArguments
      object arguments
    refine ⟨next, hnext, hnext, fun winner hmem => ?_⟩
    rcases hbest winner hmem with rfl | hold
    · exact hcandidate
    · exact hwinner winner hold
  have hinitial : ∀ winner ∈ ({} : Resolution).winner, winner.number < arena.size := by simp
  obtain ⟨resolution, hresolution, -, -⟩ := exists_foldlM hstep hinitial
  exact ⟨resolution, by rw [hsearch, hresolution]⟩

/-- A call that gives no arguments to a template takes all candidates into account. -/
theorem Closed.exists_considered (hclosed : arena.Closed) {start : DeclId}
    (hstart : start.number < arena.size) (oracle : MatchOracle)
    {templateArguments : Option (List TemplateArgument)}
    (hplain : instantiates templateArguments = false) (object : Option TypeRef)
    (arguments : List Argument) :
    ∃ functions resolution, arena.candidates start = .ok functions ∧ functions.Nodup ∧
      (∀ function ∈ functions, arena.IsFunction function) ∧
      arena.resolve oracle start templateArguments object arguments = .ok resolution ∧
      functions.foldlM (arena.consider oracle object arguments) {} = .ok resolution := by
  obtain ⟨functions, hcandidates, hnodup, hfunctions, hsearch⟩ := hclosed.exists_search hstart
  obtain ⟨resolution, hresolution⟩ :=
    hclosed.resolve hstart oracle templateArguments object arguments
  refine ⟨functions, resolution, hcandidates, hnodup, hfunctions, hresolution, ?_⟩
  rw [← weigh_eq_consider hplain, ← hsearch, hresolution]

end Arena

end Declarations
