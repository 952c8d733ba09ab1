import Declarations.Proofs.Overload.Inferred

/-!
# Two candidates

A type system that accepts the arguments of a call for two functions alone makes resolution decide
between those two.  Between a declaration and a definition that only their storage classes could
tell to be of one function, it then decides by the storage classes: if they are the same, the
definition wins, and otherwise the call is ambiguous.
-/

namespace Declarations

/-- A type system that accepts calls with the given number of arguments for two functions only. -/
def MatchOracle.only (left right : DeclId) (count : Nat) : MatchOracle :=
  fun signature arguments _ =>
    if (signature.function = left ∨ signature.function = right) ∧ arguments.length = count then
      .exact
    else
      .noMatch

theorem MatchOracle.ignoresAttributes_only (left right : DeclId) (count : Nat) :
    (MatchOracle.only left right count).IgnoresAttributes :=
  fun _ _ _ => rfl

namespace Arena

variable {arena : Arena} {left right source target candidate : DeclId} {count : Nat}
  {arguments : List Argument} {resolution : Resolution}

/-- The function does not have the given number of parameters. -/
def TakesOther (arena : Arena) (count : Nat) (function : DeclId) : Prop :=
  ∀ signature, arena.signature? function = .ok (some signature) →
    signature.parameters.length ≠ count

/-- A function that takes another number of arguments is not as specialized as any other. -/
theorem asSpecialized_only (left right : DeclId) (hclosed : arena.Closed)
    (hsource : source.number < arena.size) (htarget : target.number < arena.size)
    (hcount : arena.TakesOther count source) :
    arena.asSpecialized (.only left right count) source target = .ok .noMatch := by
  obtain ⟨sourceGiven, hsourceGiven⟩ := exists_signature? hsource
  obtain ⟨targetGiven, htargetGiven⟩ := exists_signature? htarget
  obtain ⟨clash, hclash⟩ := hclosed.objectsClash hsource htarget
  rw [asSpecialized, hsourceGiven, htargetGiven]
  cases sourceGiven with
  | none => rfl
  | some sourceSignature =>
    cases targetGiven with
    | none => rfl
    | some targetSignature =>
      have hlength : sourceSignature.ownArguments.length ≠ count := by
        simpa [Signature.ownArguments] using hcount sourceSignature hsourceGiven
      simp [hclash, MatchOracle.only, hlength]

/-- Some number of arguments is not that of the parameters of either function. -/
theorem exists_takesOther (arena : Arena) (left right : DeclId) :
    ∃ count, arena.TakesOther count left ∧ arena.TakesOther count right := by
  have hbound : ∀ function, ∃ bound, ∀ count, bound < count → arena.TakesOther count function := by
    intro function
    cases hgiven : arena.signature? function with
    | error fault => exact ⟨0, fun count _ signature hsignature => by simp [hgiven] at hsignature⟩
    | ok given =>
      cases given with
      | none => exact ⟨0, fun count _ signature hsignature => by simp [hgiven] at hsignature⟩
      | some found =>
        refine ⟨found.parameters.length, fun count hcount signature hsignature => ?_⟩
        obtain rfl : found = signature := by simpa [hgiven] using hsignature
        omega
  obtain ⟨leftBound, hleft⟩ := hbound left
  obtain ⟨rightBound, hright⟩ := hbound right
  exact ⟨leftBound + rightBound + 1, hleft _ (by omega), hright _ (by omega)⟩

/-- The two functions fit, and no other one does. -/
theorem fit_only (left right : DeclId) (hclosed : arena.Closed)
    (hcandidate : arena.IsFunction candidate) (harguments : arguments.length = count)
    (object : Option TypeRef) :
    arena.fit (.only left right count) object arguments candidate =
      .ok (if candidate = left ∨ candidate = right then .exact else .noMatch) := by
  obtain ⟨passed, hpassed⟩ := hclosed.objectFor hcandidate.lt object
  obtain ⟨declaration, hget, hfunction⟩ := hcandidate
  obtain ⟨state, hstate⟩ := Option.isSome_iff_exists.mp hfunction
  simp [fit, signature?, hget, Declaration.signature?, hstate, hpassed, MatchOracle.only,
    harguments]

/-- Two candidates that fit equally well are equal unless the condition holds. -/
def TiesUnless (arena : Arena) (oracle : MatchOracle) (settled : Prop)
    (challenger holder : DeclId) : Prop :=
  ∃ order, arena.breakTie oracle challenger holder = .ok order ∧ (order = .eq ↔ ¬settled)

/-- A declaration and its definition are equal candidates unless their storage classes are the same,
whichever of them is the best one so far. -/
theorem tiesUnless_sameStorage (left right : DeclId) (hclosed : arena.Closed)
    {declared defined : DeclId} (hcounterparts : arena.Counterparts declared defined)
    (hdeclared : arena.TakesOther count declared) (hdefined : arena.TakesOther count defined) :
    arena.TiesUnless (.only left right count) (arena.SameStorage declared defined)
        declared defined ∧
      arena.TiesUnless (.only left right count) (arena.SameStorage declared defined)
        defined declared := by
  obtain ⟨declaration, definition, hdeclaration, hdefinition, hbodiless, hbody, hover, hback,
    hresembles⟩ := hcounterparts
  have hforward := asSpecialized_only left right hclosed
    (lt_of_get hdeclaration) (lt_of_get hdefinition) hdeclared
  have hbackward := asSpecialized_only left right hclosed
    (lt_of_get hdefinition) (lt_of_get hdeclaration) hdefined
  have hresemblesBack : definition.resembles declaration = true := by
    rwa [Declaration.resembles_comm]
  rw [sameStorage_iff_of_get hdeclaration hdefinition]
  by_cases hstorage : declaration.storage = definition.storage
  · constructor
    · exact ⟨.lt, by
        rw [breakTie_of_get hdeclaration hdefinition]
        simp [hover, hback, hbodiless, hbody, Declaration.sameFunction_eq, hresembles, hstorage],
        by simp [hstorage]⟩
    · exact ⟨.gt, by
        rw [breakTie_of_get hdefinition hdeclaration]
        simp [hover, hback, hbodiless, hbody, Declaration.sameFunction_eq, hresemblesBack,
          hstorage],
        by simp [hstorage]⟩
  · have hstorageBack : definition.storage ≠ declaration.storage := fun heq => hstorage heq.symm
    constructor
    · exact ⟨.eq, by
        rw [breakTie_of_get hdeclaration hdefinition]
        simp [hover, hback, Declaration.sameFunction_eq, hstorage, hforward, hbackward,
          MatchLevel.order],
        by simp [hstorage]⟩
    · exact ⟨.eq, by
        rw [breakTie_of_get hdefinition hdeclaration]
        simp [hover, hback, Declaration.sameFunction_eq, hstorageBack, hforward, hbackward,
          MatchLevel.order],
        by simp [hstorage]⟩

/-! ## The search -/

/-- How a search stands that will find one best candidate exactly if the condition holds, with the
candidates that are still to be weighed: both functions are to come, or the second one, or none. -/
inductive Awaits (left right : DeclId) (settled : Prop) : List DeclId → Resolution → Prop
  | both {rest : List DeclId} {resolution : Resolution} (left_mem : left ∈ rest)
      (right_mem : right ∈ rest) (winner_eq : resolution.winner = none) :
      Awaits left right settled rest resolution
  | second {rest : List DeclId} {resolution : Resolution} (holder late : DeclId)
      (pair : holder = left ∧ late = right ∨ holder = right ∧ late = left) (late_mem : late ∈ rest)
      (holder_notMem : holder ∉ rest) (winner_eq : resolution.winner = some holder)
      (level_eq : resolution.level = .exact) (count_eq : resolution.count = 1) :
      Awaits left right settled rest resolution
  | neither {rest : List DeclId} {resolution : Resolution} (left_notMem : left ∉ rest)
      (right_notMem : right ∉ rest) (count_iff : resolution.count = 1 ↔ settled) :
      Awaits left right settled rest resolution

/-- The second function wins, loses or ties. -/
theorem exists_challenge_of_tiesUnless {settled : Prop} {holder late : DeclId}
    {oracle : MatchOracle} (hties : arena.TiesUnless oracle settled late holder)
    (hwinner : resolution.winner = some holder) (hlevel : resolution.level = .exact)
    (hcount : resolution.count = 1) :
    ∃ next, arena.challenge oracle resolution late .exact = .ok next ∧
      (next.count = 1 ↔ settled) := by
  obtain ⟨order, horder, hsettled⟩ := hties
  have hlevels : MatchLevel.order .exact .exact = .eq := by decide
  simp only [challenge, hwinner, hlevel, hlevels, horder, ok_bind]
  cases order with
  | gt => exact ⟨_, rfl, by simpa [Resolution.take] using hsettled⟩
  | lt => exact ⟨_, rfl, by simpa [hcount] using hsettled⟩
  | eq => exact ⟨_, rfl, by simpa [Resolution.tie, hcount] using hsettled⟩

/-- A candidate that does not fit changes nothing. -/
theorem Awaits.pass {settled : Prop} {rest : List DeclId}
    (hawaits : Awaits left right settled (candidate :: rest) resolution)
    (hleft : candidate ≠ left) (hright : candidate ≠ right) :
    Awaits left right settled rest (resolution.meet candidate) := by
  cases hawaits with
  | both left_mem right_mem winner_eq =>
    exact .both ((List.mem_cons.mp left_mem).resolve_left hleft.symm)
      ((List.mem_cons.mp right_mem).resolve_left hright.symm) winner_eq
  | second holder late pair late_mem holder_notMem winner_eq level_eq count_eq =>
    have hlate : late ≠ candidate := by
      rcases pair with ⟨-, rfl⟩ | ⟨-, rfl⟩
      · exact hright.symm
      · exact hleft.symm
    exact .second holder late pair ((List.mem_cons.mp late_mem).resolve_left hlate)
      (fun hmem => holder_notMem (List.mem_cons_of_mem _ hmem)) winner_eq level_eq count_eq
  | neither left_notMem right_notMem count_iff =>
    exact .neither (fun hmem => left_notMem (List.mem_cons_of_mem _ hmem))
      (fun hmem => right_notMem (List.mem_cons_of_mem _ hmem)) count_iff

/-- The first of the two functions is the best candidate, and the second one is compared with it. -/
theorem Awaits.challenge {oracle : MatchOracle} {settled : Prop} {rest : List DeclId}
    (hne : left ≠ right) (hforth : arena.TiesUnless oracle settled left right)
    (hback : arena.TiesUnless oracle settled right left) (hfresh : candidate ∉ rest)
    (hawaits : Awaits left right settled (candidate :: rest) resolution)
    (hcandidate : candidate = left ∨ candidate = right) :
    ∃ next, arena.challenge oracle (resolution.meet candidate) candidate .exact = .ok next ∧
      Awaits left right settled rest next := by
  cases hawaits with
  | both left_mem right_mem winner_eq =>
    refine ⟨(resolution.meet candidate).take candidate .exact, ?_, ?_⟩
    · simp [Arena.challenge, Resolution.meet, winner_eq]
    · rcases hcandidate with rfl | rfl
      · exact .second candidate right (.inl ⟨rfl, rfl⟩)
          ((List.mem_cons.mp right_mem).resolve_left hne.symm) hfresh rfl rfl rfl
      · exact .second candidate left (.inr ⟨rfl, rfl⟩)
          ((List.mem_cons.mp left_mem).resolve_left hne) hfresh rfl rfl rfl
  | second holder late pair late_mem holder_notMem winner_eq level_eq count_eq =>
    rw [List.mem_cons, not_or] at holder_notMem
    have hlate : candidate = late ∧ arena.TiesUnless oracle settled late holder := by
      rcases pair with ⟨rfl, rfl⟩ | ⟨rfl, rfl⟩
      · exact ⟨hcandidate.resolve_left (Ne.symm holder_notMem.1), hback⟩
      · exact ⟨hcandidate.resolve_right (Ne.symm holder_notMem.1), hforth⟩
    obtain ⟨rfl, hties⟩ := hlate
    have hmet : (resolution.meet candidate).winner = some holder := winner_eq
    obtain ⟨next, hnext, hcount⟩ := exists_challenge_of_tiesUnless hties hmet level_eq count_eq
    refine ⟨next, hnext, ?_⟩
    rcases pair with ⟨rfl, rfl⟩ | ⟨rfl, rfl⟩
    · exact .neither holder_notMem.2 hfresh hcount
    · exact .neither hfresh holder_notMem.2 hcount
  | neither left_notMem right_notMem count_iff =>
    rcases hcandidate with rfl | rfl
    · exact absurd List.mem_cons_self left_notMem
    · exact absurd List.mem_cons_self right_notMem

/-- The search for the better of two functions finds one exactly if the condition holds. -/
theorem Awaits.exists_last {settled : Prop} {rest : List DeclId} (hclosed : arena.Closed)
    (hne : left ≠ right) (harguments : arguments.length = count)
    (hforth : arena.TiesUnless (.only left right count) settled left right)
    (hback : arena.TiesUnless (.only left right count) settled right left)
    (hrest : ∀ function ∈ rest, arena.IsFunction function) (hnodup : rest.Nodup)
    (hawaits : Awaits left right settled rest resolution) :
    ∃ last, rest.foldlM (arena.weigh (.only left right count) none none arguments) resolution =
      .ok last ∧ (last.count = 1 ↔ settled) := by
  induction rest generalizing resolution with
  | nil =>
    cases hawaits with
    | both left_mem => simp at left_mem
    | second holder late pair late_mem => simp at late_mem
    | neither left_notMem right_notMem count_iff => exact ⟨resolution, rfl, count_iff⟩
  | cons candidate rest ih =>
    rw [List.nodup_cons] at hnodup
    have hfit := fit_only left right hclosed (hrest candidate List.mem_cons_self) harguments none
    obtain ⟨next, hnext, hnextAwaits⟩ : ∃ next,
        arena.weigh (.only left right count) none none arguments resolution candidate = .ok next ∧
          Awaits left right settled rest next := by
      rw [Arena.weigh, instantiates, Option.any_none, if_neg Bool.false_ne_true, consider_eq, hfit,
        ok_bind]
      by_cases hcandidate : candidate = left ∨ candidate = right
      · simpa [hcandidate] using hawaits.challenge hne hforth hback hnodup.1 hcandidate
      · rw [not_or] at hcandidate
        exact ⟨_, by simp [hcandidate], hawaits.pass hcandidate.1 hcandidate.2⟩
    obtain ⟨last, hlast⟩ := ih (fun function hmem => hrest function (List.mem_cons_of_mem _ hmem))
      hnodup.2 hnextAwaits
    exact ⟨last, by rwa [List.foldlM_cons, hnext, ok_bind]⟩

/-- A call that only a declaration and its definition fit has one best candidate exactly if their
storage classes are the same. -/
theorem exists_resolve_only (hclosed : arena.Closed) {start : DeclId}
    (hstart : start.number < arena.size) {functions : List DeclId}
    (hcandidates : arena.candidates start = .ok functions) {declared defined : DeclId}
    (hdeclared : declared ∈ functions) (hdefined : defined ∈ functions)
    (hcounterparts : arena.Counterparts declared defined)
    (hdeclaredTakes : arena.TakesOther count declared)
    (hdefinedTakes : arena.TakesOther count defined) (harguments : arguments.length = count) :
    ∃ resolution, arena.resolve (.only declared defined count) start none none arguments =
      .ok resolution ∧ (resolution.count = 1 ↔ arena.SameStorage declared defined) := by
  obtain ⟨found, hfound, hnodup, hfunctions, hsearch⟩ := hclosed.exists_search hstart
  obtain rfl : found = functions := Except.ok.inj (hfound.symm.trans hcandidates)
  have hne : declared ≠ defined := by
    rintro rfl
    obtain ⟨declaration, definition, hdeclaration, hdefinition, hbodiless, hbody, -⟩ :=
      hcounterparts
    obtain rfl : declaration = definition := Except.ok.inj (hdeclaration.symm.trans hdefinition)
    rw [hbodiless] at hbody
    contradiction
  obtain ⟨hforth, hback⟩ := tiesUnless_sameStorage declared defined hclosed hcounterparts
    hdeclaredTakes hdefinedTakes
  rw [hsearch]
  exact Awaits.exists_last hclosed hne harguments hforth hback hfunctions hnodup
    (.both hdeclared hdefined rfl)

end Arena

end Declarations
