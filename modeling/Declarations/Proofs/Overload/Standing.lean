import Declarations.Proofs.Overload.Winner

/-!
# How a search stands

A search for the best function keeps a record of a few fields, and each candidate changes some of
them.  After any list of candidates the fields agree with one another and with the list: either no
candidate fits and only the first one is noted, or there is a winner of the best level, and a rival
of the winner exactly if it is not alone.
-/

namespace Declarations

namespace Arena

variable {arena : Arena} {oracle : MatchOracle} {object : Option TypeRef}
  {arguments : List Argument} {resolution next : Resolution} {candidate winner holder : DeclId}
  {functions passed : List DeclId} {level : MatchLevel}

/-- Candidates that are equal in one order are equal in the other. -/
theorem breakTie_comm_of_eq (horder : arena.breakTie oracle candidate holder = .ok .eq) :
    arena.breakTie oracle holder candidate = .ok .eq :=
  breakTie_comm (not_overrides_of_breakTie horder nofun) horder

inductive Weighed (arena : Arena) (oracle : MatchOracle) (object : Option TypeRef)
    (arguments : List Argument) (resolution : Resolution) (candidate : DeclId) :
    Resolution → Prop where
  /-- The candidate does not fit. -/
  | passed (fit_eq : arena.fit oracle object arguments candidate = .ok .noMatch) :
      Weighed arena oracle object arguments resolution candidate (resolution.meet candidate)
  /-- The candidate is the first one that fits. -/
  | entered {level : MatchLevel} (winner_eq : resolution.winner = none)
      (fit_eq : arena.fit oracle object arguments candidate = .ok level)
      (level_ne : level ≠ .noMatch) :
      Weighed arena oracle object arguments resolution candidate
        ((resolution.meet candidate).take candidate level)
  /-- The candidate takes the place of the winner. -/
  | taken {level : MatchLevel} {holder : DeclId} (winner_eq : resolution.winner = some holder)
      (fit_eq : arena.fit oracle object arguments candidate = .ok level)
      (level_ne : level ≠ .noMatch)
      (better : level.order resolution.level = .gt ∨
        level = resolution.level ∧ arena.breakTie oracle candidate holder = .ok .gt) :
      Weighed arena oracle object arguments resolution candidate
        ((resolution.meet candidate).take candidate level)
  /-- The winner keeps its place. -/
  | kept {level : MatchLevel} {holder : DeclId} (winner_eq : resolution.winner = some holder)
      (fit_eq : arena.fit oracle object arguments candidate = .ok level)
      (worse : level.order resolution.level = .lt ∨
        level = resolution.level ∧ arena.breakTie oracle candidate holder = .ok .lt) :
      Weighed arena oracle object arguments resolution candidate (resolution.meet candidate)
  /-- The candidate shares the place of the winner. -/
  | tied {holder : DeclId} (winner_eq : resolution.winner = some holder)
      (fit_eq : arena.fit oracle object arguments candidate = .ok resolution.level)
      (tie : arena.breakTie oracle candidate holder = .ok .eq) :
      Weighed arena oracle object arguments resolution candidate
        ((resolution.meet candidate).tie candidate)

/-- Taking a candidate into account does one of these things. -/
theorem weighed_of_consider
    (hconsider : arena.consider oracle object arguments resolution candidate = .ok next) :
    arena.Weighed oracle object arguments resolution candidate next := by
  rw [consider_eq] at hconsider
  obtain ⟨level, hfit, hrest⟩ := bind_eq_ok_iff.mp hconsider
  split at hrest
  · next hlevel =>
    obtain rfl := Except.ok.inj hrest
    exact .passed (hlevel ▸ hfit)
  · next hlevel =>
    have hwinner : (resolution.meet candidate).winner = resolution.winner := rfl
    have hmet : (resolution.meet candidate).level = resolution.level := rfl
    rw [challenge, hwinner, hmet] at hrest
    cases hholder : resolution.winner with
    | none =>
      simp only [hholder, pure_eq_ok, Except.ok.injEq] at hrest
      subst next
      exact .entered hholder hfit hlevel
    | some holder =>
      simp only [hholder] at hrest
      cases horder : level.order resolution.level with
      | gt =>
        simp only [horder, pure_eq_ok, Except.ok.injEq] at hrest
        subst next
        exact .taken hholder hfit hlevel (.inl horder)
      | lt =>
        simp only [horder, pure_eq_ok, Except.ok.injEq] at hrest
        subst next
        exact .kept hholder hfit (.inl horder)
      | eq =>
        obtain rfl := MatchLevel.eq_of_order_eq horder
        simp only [horder] at hrest
        obtain ⟨order, hbreak, hnext⟩ := bind_eq_ok_iff.mp hrest
        cases order with
        | gt =>
          obtain rfl := Except.ok.inj hnext
          exact .taken hholder hfit hlevel (.inr ⟨rfl, hbreak⟩)
        | lt =>
          obtain rfl := Except.ok.inj hnext
          exact .kept hholder hfit (.inr ⟨rfl, hbreak⟩)
        | eq =>
          obtain rfl := Except.ok.inj hnext
          exact .tied hholder hfit hbreak

/-- The function is the winner of a search through the candidates, and the record says so. -/
structure HasWinner (arena : Arena) (oracle : MatchOracle) (object : Option TypeRef)
    (arguments : List Argument) (functions : List DeclId) (resolution : Resolution)
    (winner : DeclId) : Prop where
  winner_eq : resolution.winner = some winner
  winner_mem : winner ∈ functions
  fit_eq : arena.fit oracle object arguments winner = .ok resolution.level
  level_ne : resolution.level ≠ .noMatch
  /-- No candidate fits better. -/
  fit_le : ∀ function ∈ functions, ∃ level,
    arena.fit oracle object arguments function = .ok level ∧ level ≤ resolution.level
  count_pos : 1 ≤ resolution.count
  rival_iff : resolution.rival.isSome = true ↔ 2 ≤ resolution.count
  /-- A rival is another candidate that fits as well and is equal to the winner. -/
  rival_ties : ∀ rival ∈ resolution.rival, rival ∈ functions ∧ rival ≠ winner ∧
    arena.fit oracle object arguments rival = .ok resolution.level ∧
    arena.breakTie oracle rival winner = .ok .eq ∧ arena.breakTie oracle winner rival = .ok .eq

namespace HasWinner

/-- A candidate that fits as well as any before it wins alone when it takes the place. -/
theorem take (hle : ∀ function ∈ passed, ∃ other,
      arena.fit oracle object arguments function = .ok other ∧ other ≤ level)
    (hfit : arena.fit oracle object arguments candidate = .ok level) (hlevel : level ≠ .noMatch)
    (resolution : Resolution) :
    arena.HasWinner oracle object arguments (passed ++ [candidate])
      (resolution.take candidate level) candidate where
  winner_eq := rfl
  winner_mem := by simp
  fit_eq := hfit
  level_ne := hlevel
  fit_le := List.forall_mem_append.mpr ⟨hle, by simpa using ⟨level, hfit, Nat.le_refl _⟩⟩
  count_pos := Nat.le_refl 1
  rival_iff := by simp [Resolution.take]
  rival_ties := by simp [Resolution.take]

/-- A candidate that fits no better leaves the winner in its place. -/
theorem keep (hwins : arena.HasWinner oracle object arguments passed resolution winner)
    (hfit : arena.fit oracle object arguments candidate = .ok level)
    (hle : level ≤ resolution.level) :
    arena.HasWinner oracle object arguments (passed ++ [candidate]) (resolution.meet candidate)
      winner where
  winner_eq := hwins.winner_eq
  winner_mem := List.mem_append_left _ hwins.winner_mem
  fit_eq := hwins.fit_eq
  level_ne := hwins.level_ne
  fit_le := List.forall_mem_append.mpr ⟨hwins.fit_le, by simpa using ⟨level, hfit, hle⟩⟩
  count_pos := hwins.count_pos
  rival_iff := hwins.rival_iff
  rival_ties := by
    intro rival hrival
    obtain ⟨hmem, hrest⟩ := hwins.rival_ties rival hrival
    exact ⟨List.mem_append_left _ hmem, hrest⟩

/-- A candidate that ties with the winner is its rival from then on. -/
theorem tie (hwins : arena.HasWinner oracle object arguments passed resolution winner)
    (hfresh : candidate ∉ passed)
    (hfit : arena.fit oracle object arguments candidate = .ok resolution.level)
    (htie : arena.breakTie oracle candidate winner = .ok .eq) :
    arena.HasWinner oracle object arguments (passed ++ [candidate])
      ((resolution.meet candidate).tie candidate) winner where
  winner_eq := hwins.winner_eq
  winner_mem := List.mem_append_left _ hwins.winner_mem
  fit_eq := hwins.fit_eq
  level_ne := hwins.level_ne
  fit_le := List.forall_mem_append.mpr
    ⟨hwins.fit_le, by simpa using ⟨_, hfit, Nat.le_refl _⟩⟩
  count_pos := Nat.le_add_left 1 resolution.count
  rival_iff := iff_of_true rfl (Nat.succ_le_succ hwins.count_pos)
  rival_ties := by
    intro rival hrival
    obtain rfl : candidate = rival := by simpa [Resolution.tie] using hrival
    refine ⟨by simp, ?_, hfit, htie, breakTie_comm_of_eq htie⟩
    rintro rfl
    exact hfresh hwins.winner_mem

/-- What is recorded of a winner that stands alone. -/
theorem eq_of_count_eq_one
    (hwins : arena.HasWinner oracle object arguments functions resolution winner)
    (hcount : resolution.count = 1) :
    resolution = { count := 1, level := resolution.level, winner := some winner, rival := none,
                   first := resolution.first } := by
  have hrival : resolution.rival = none := by
    rw [← Option.not_isSome_iff_eq_none, hwins.rival_iff]
    omega
  rw [← hwins.winner_eq, ← hrival, ← hcount]

end HasWinner

/-- How the record of a search stands after some candidates. -/
inductive Coherent (arena : Arena) (oracle : MatchOracle) (object : Option TypeRef)
    (arguments : List Argument) (functions : List DeclId) : Resolution → Prop where
  | unmatched
      (fit_eq : ∀ function ∈ functions, arena.fit oracle object arguments function = .ok .noMatch) :
      Coherent arena oracle object arguments functions { first := functions.head? }
  | matched {resolution : Resolution} {winner : DeclId}
      (first_eq : resolution.first = functions.head?)
      (wins : arena.HasWinner oracle object arguments functions resolution winner) :
      Coherent arena oracle object arguments functions resolution

namespace Coherent

theorem nil : arena.Coherent oracle object arguments [] {} :=
  .unmatched (by simp)

/-- The first candidate of a list stays the first one when another one is added. -/
theorem meet_first_eq (hfirst : resolution.first = passed.head?) :
    (resolution.meet candidate).first = (passed ++ [candidate]).head? := by
  simp [Resolution.meet, hfirst, List.head?_append]

/-- One candidate. -/
theorem weigh (hcoherent : arena.Coherent oracle object arguments passed resolution)
    (hfresh : candidate ∉ passed)
    (hweighed : arena.Weighed oracle object arguments resolution candidate next) :
    arena.Coherent oracle object arguments (passed ++ [candidate]) next := by
  cases hcoherent with
  | unmatched fit_eq =>
    cases hweighed with
    | passed candidate_fit_eq =>
      have hnone := List.forall_mem_append.mpr
        ⟨fit_eq, List.forall_mem_singleton.mpr candidate_fit_eq⟩
      have hunmatched : arena.Coherent oracle object arguments (passed ++ [candidate])
          { first := (passed ++ [candidate]).head? } := .unmatched hnone
      simpa [Resolution.meet, List.head?_append] using hunmatched
    | entered _ candidate_fit_eq level_ne =>
      refine .matched (meet_first_eq rfl)
        (.take (fun function hmem => ?_) candidate_fit_eq level_ne _)
      exact ⟨.noMatch, fit_eq function hmem, MatchLevel.noMatch_le⟩
    | taken winner_eq | kept winner_eq | tied winner_eq => simp at winner_eq
  | @matched _ winner first_eq wins =>
    cases hweighed with
    | passed fit_eq =>
      exact .matched (meet_first_eq first_eq) (wins.keep fit_eq MatchLevel.noMatch_le)
    | entered winner_eq => simp [wins.winner_eq] at winner_eq
    | @taken level _ _ fit_eq level_ne better =>
      have hle : resolution.level ≤ level := by
        obtain hgt | ⟨rfl, -⟩ := better
        · exact (MatchLevel.not_le_of_order_eq_gt hgt).1
        · exact Nat.le_refl _
      refine .matched (meet_first_eq first_eq) (.take (fun function hmem => ?_) fit_eq level_ne _)
      obtain ⟨other, hother, hbound⟩ := wins.fit_le function hmem
      exact ⟨other, hother, Nat.le_trans hbound hle⟩
    | @kept level _ _ fit_eq worse =>
      have hle : level ≤ resolution.level := by
        obtain hlt | ⟨rfl, -⟩ := worse
        · exact (MatchLevel.le_of_order_eq_lt hlt).1
        · exact Nat.le_refl _
      exact .matched (meet_first_eq first_eq) (wins.keep fit_eq hle)
    | tied winner_eq fit_eq tie =>
      obtain rfl := Option.some.inj (wins.winner_eq.symm.trans winner_eq)
      exact .matched (meet_first_eq first_eq) (wins.tie hfresh fit_eq tie)

/-- A search through different candidates. -/
theorem foldlM (hcoherent : arena.Coherent oracle object arguments passed resolution)
    (hnodup : (passed ++ functions).Nodup)
    (hsearch : functions.foldlM (arena.consider oracle object arguments) resolution = .ok next) :
    arena.Coherent oracle object arguments (passed ++ functions) next := by
  induction functions generalizing passed resolution with
  | nil =>
    obtain rfl := Except.ok.inj hsearch
    rwa [List.append_nil]
  | cons candidate functions ih =>
    rw [List.foldlM_cons] at hsearch
    obtain ⟨middle, hconsider, hrest⟩ := bind_eq_ok_iff.mp hsearch
    rw [List.append_cons] at hnodup ⊢
    have hfresh : candidate ∉ passed := by
      intro hmem
      have hpassed := (List.nodup_append.mp hnodup).1
      exact (List.nodup_append.mp hpassed).2.2 candidate hmem candidate (by simp) rfl
    exact ih (hcoherent.weigh hfresh (weighed_of_consider hconsider)) hnodup hrest

end Coherent

/-- A call that gives arguments to a template notes the first candidate and nothing else. -/
theorem foldlM_weigh_of_instantiates {templateArguments : Option (List TemplateArgument)}
    (hinstantiates : instantiates templateArguments = true) :
    functions.foldlM (arena.weigh oracle templateArguments object arguments) resolution =
      .ok { resolution with first := resolution.first <|> functions.head? } := by
  induction functions generalizing resolution with
  | nil => simp
  | cons candidate functions ih =>
    rw [List.foldlM_cons, Arena.weigh, if_pos hinstantiates, ok_bind, ih]
    cases hfirst : resolution.first <;> simp [Resolution.meet, hfirst]

/-- No function that is named by a call fits it: the call gives arguments to a template, or the type
system accepts the arguments for none of the candidates. -/
def NothingFits (arena : Arena) (oracle : MatchOracle)
    (templateArguments : Option (List TemplateArgument)) (object : Option TypeRef)
    (arguments : List Argument) (functions : List DeclId) : Prop :=
  instantiates templateArguments = true ∨
    ∀ function ∈ functions, arena.fit oracle object arguments function = .ok .noMatch

theorem HasWinner.not_noMatch
    (hwins : arena.HasWinner oracle object arguments functions resolution winner) :
    ¬∀ function ∈ functions, arena.fit oracle object arguments function = .ok .noMatch := by
  intro hnone
  have hfit := hnone winner hwins.winner_mem
  rw [hwins.fit_eq, Except.ok.injEq] at hfit
  exact hwins.level_ne hfit

/-- The record of a call is coherent at the end of the search. -/
theorem Closed.exists_standing (hclosed : arena.Closed) {start : DeclId}
    (hstart : start.number < arena.size) (oracle : MatchOracle)
    (templateArguments : Option (List TemplateArgument)) (object : Option TypeRef)
    (arguments : List Argument) :
    ∃ functions resolution, arena.candidates start = .ok functions ∧
      (∀ function ∈ functions, arena.IsFunction function) ∧
      arena.resolve oracle start templateArguments object arguments = .ok resolution ∧
      resolution.first = functions.head? ∧
      (arena.NothingFits oracle templateArguments object arguments functions →
        resolution = { first := functions.head? }) ∧
      (¬arena.NothingFits oracle templateArguments object arguments functions →
        ∃ winner, arena.HasWinner oracle object arguments functions resolution winner) := by
  obtain ⟨functions, hcandidates, hnodup, hfunctions, hsearch⟩ := hclosed.exists_search hstart
  obtain ⟨resolution, hresolution⟩ :=
    hclosed.resolve hstart oracle templateArguments object arguments
  refine ⟨functions, resolution, hcandidates, hfunctions, hresolution, ?_⟩
  rw [hsearch] at hresolution
  cases hinstantiates : instantiates templateArguments with
  | true =>
    rw [foldlM_weigh_of_instantiates hinstantiates, Except.ok.injEq] at hresolution
    subst resolution
    have hnothing : arena.NothingFits oracle templateArguments object arguments functions :=
      .inl hinstantiates
    exact ⟨by simp, fun _ => by simp, fun hfits => absurd hnothing hfits⟩
  | false =>
    rw [weigh_eq_consider hinstantiates] at hresolution
    have hnothing : arena.NothingFits oracle templateArguments object arguments functions ↔
        ∀ function ∈ functions, arena.fit oracle object arguments function = .ok .noMatch := by
      simp [NothingFits, hinstantiates]
    have hcoherent : arena.Coherent oracle object arguments functions resolution :=
      Coherent.nil.foldlM hnodup hresolution
    rw [hnothing]
    cases hcoherent with
    | unmatched fit_eq => exact ⟨rfl, fun _ => rfl, fun hfits => absurd fit_eq hfits⟩
    | @matched _ winner first_eq wins =>
      exact ⟨first_eq, fun hnone => absurd hnone wins.not_noMatch, fun _ => ⟨winner, wins⟩⟩

end Arena

end Declarations
