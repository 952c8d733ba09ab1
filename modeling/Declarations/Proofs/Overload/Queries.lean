import Declarations.Proofs.Overload.Duel

/-!
# Calls before and after queries

Asking for attributes is not meant to change what calls go to, but it can.  Before its attributes
are inferred, a definition has the storage class of its declaration and wins over it.  What is
recorded at the definition afterwards makes the storage classes different, and the call is
ambiguous.  For type systems that ignore attributes this is all that can happen, and it does happen
whenever the storage classes of a declaration and its definition become different or equal.
-/

namespace Declarations

namespace Arena

variable {before after : Arena} {kept : Attributes} {count : Nat}
variable {function declared defined : DeclId}

/-- The record of attributes is not looked at to find out which functions could be a declaration and
its definition. -/
theorem Counterparts.congr (hkeep : after.keep kept = before.keep kept)
    (hcounterparts : before.Counterparts declared defined) :
    after.Counterparts declared defined := by
  obtain ⟨declaration, definition, hdeclaration, hdefinition, hbodiless, hbody, hover, hback,
    hresembles⟩ := hcounterparts
  obtain ⟨declarationAfter, hdeclarationAfter, hdeclarationKeep⟩ :=
    exists_get_of_keep_eq hkeep.symm hdeclaration
  obtain ⟨definitionAfter, hdefinitionAfter, hdefinitionKeep⟩ :=
    exists_get_of_keep_eq hkeep.symm hdefinition
  refine ⟨declarationAfter, definitionAfter, hdeclarationAfter, hdefinitionAfter,
    ?_, ?_, ?_, ?_, ?_⟩
  · rw [← Declaration.hasBody_congr hdeclarationKeep, hbodiless]
  · rw [← Declaration.hasBody_congr hdefinitionKeep, hbody]
  · rw [← Declaration.overrides_congr hdeclarationKeep, hover]
  · rw [← Declaration.overrides_congr hdefinitionKeep, hback]
  · rw [← Declaration.resembles_congr hdeclarationKeep hdefinitionKeep, hresembles]

theorem TakesOther.congr (hkeep : after.keep kept = before.keep kept)
    (htakes : before.TakesOther count function) : after.TakesOther count function := by
  intro signature hsignature
  have hsame : (after.signature? function).map (Option.map (Signature.keep kept)) =
      (before.signature? function).map (Option.map (Signature.keep kept)) := by
    rw [← signature?_keep, hkeep, signature?_keep]
  rw [hsignature] at hsame
  cases hgiven : before.signature? function with
  | error fault => simp [hgiven] at hsame
  | ok given =>
    cases given with
    | none => simp [hgiven] at hsame
    | some other =>
      have hparameters : signature.keep kept = other.keep kept := by simpa [hgiven] using hsame
      have hlength := congrArg (fun signature => signature.parameters.length) hparameters
      exact hlength ▸ htakes other hgiven

/-- Nothing is ever inferred for a function without a body. -/
theorem Grows.get_eq_of_not_hasBody {config : Config} (hgrows : Grows config before after)
    {declaration : Declaration} (hget : before.get function = .ok declaration)
    (hbodiless : declaration.hasBody = false) : after.get function = .ok declaration := by
  induction hgrows with
  | refl => exact hget
  | tail _ hstep ih =>
    obtain ⟨wanted, hsettles⟩ := hstep
    rw [hsettles.get_eq, ih]
    rintro ⟨found, hfound, hstatus⟩
    obtain rfl : declaration = found := Except.ok.inj (ih.symm.trans hfound)
    obtain ⟨state, hfunc, -, -, -, htransparent, -⟩ :=
      Declaration.exists_of_status_undecided hstatus
    simp only [Declaration.isTransparent, Bool.and_eq_true] at htransparent
    simp [Declaration.hasBody, hfunc, htransparent.1.2] at hbodiless

/-- Two arenas that differ in the record of attributes alone resolve all calls of an overload set in
the same way, for all type systems that ignore attributes, exactly if they agree on which of its
declarations and definitions have the same storage class. -/
theorem resolve_eq_iff_agreesOn (hclosed : before.Closed)
    (hkeep : after.keep kept = before.keep kept) {start : DeclId}
    (hstart : start.number < before.size) {functions : List DeclId}
    (hcandidates : before.candidates start = .ok functions) :
    (∀ oracle : MatchOracle, oracle.IgnoresAttributes →
      ∀ templateArguments object arguments,
        after.resolve oracle start templateArguments object arguments =
          before.resolve oracle start templateArguments object arguments) ↔
      AgreesOn after before functions := by
  constructor
  · intro hresolve declared hdeclared defined hdefined hcounterparts
    have hafter := closed_of_keep_eq hkeep hclosed
    have hsize := size_of_keep_eq hkeep
    have hcandidatesAfter : after.candidates start = .ok functions := by
      rw [← candidates_keep, hkeep, candidates_keep, hcandidates]
    obtain ⟨count, hdeclaredTakes, hdefinedTakes⟩ := exists_takesOther before declared defined
    let arguments : List Argument := List.replicate count { type := ⟨0⟩ }
    have harguments : arguments.length = count := List.length_replicate
    obtain ⟨resolution, hbefore, hcount⟩ := exists_resolve_only hclosed hstart hcandidates hdeclared
      hdefined hcounterparts hdeclaredTakes hdefinedTakes harguments
    obtain ⟨resolutionAfter, hresolveAfter, hcountAfter⟩ := exists_resolve_only hafter
      (hsize ▸ hstart) hcandidatesAfter hdeclared hdefined (hcounterparts.congr hkeep)
      (hdeclaredTakes.congr hkeep) (hdefinedTakes.congr hkeep) harguments
    have hignores := MatchOracle.ignoresAttributes_only declared defined count
    rw [hresolve _ hignores, hbefore] at hresolveAfter
    obtain rfl := Except.ok.inj hresolveAfter
    exact hcountAfter.symm.trans hcount
  · intro hagrees oracle horacle templateArguments object arguments
    exact resolve_congr hclosed hkeep hstart hcandidates hagrees horacle templateArguments object
      arguments

end Arena

namespace Session

open Arena

variable {config : Config}

/-- Every call gets an answer.  Queries leave functions without a body as they were, and they leave
the answers of all calls of an overload set as they were exactly if no definition in it has come to
differ in its storage class from a declaration of it, or to agree with one. -/
theorem resolve_after_queries {arena : Arena} (hclosed : arena.Closed) {queries : List Operation}
    (hqueries : ∀ query ∈ queries, query.isQuery = true)
    (hhandles : ∀ query ∈ queries, ∀ handle ∈ query.handles, handle.number < arena.size)
    {start : DeclId} (hstart : start.number < arena.size) :
    ∃ session functions, run config { arena } queries = .ok session ∧
      arena.candidates start = .ok functions ∧
      (∀ oracle templateArguments object arguments, ∃ resolution,
        arena.resolve oracle start templateArguments object arguments = .ok resolution) ∧
      (∀ function declaration, arena.get function = .ok declaration →
        declaration.hasBody = false → session.arena.get function = .ok declaration) ∧
      ((∀ oracle : MatchOracle, oracle.IgnoresAttributes →
        ∀ templateArguments object arguments,
          session.arena.resolve oracle start templateArguments object arguments =
            arena.resolve oracle start templateArguments object arguments) ↔
        ∀ declared ∈ functions, ∀ defined ∈ functions, arena.Counterparts declared defined →
          (session.arena.SameStorage declared defined ↔ arena.SameStorage declared defined)) := by
  have hidle : Session.Idle { arena } := ⟨rfl, hclosed⟩
  obtain ⟨session, hrun, hsession⟩ := run_queries_follows config hidle hqueries hhandles
  obtain ⟨functions, hcandidates, -⟩ := hclosed.exists_candidates hstart
  exact ⟨session, functions, hrun, hcandidates, hclosed.resolve hstart,
    fun _ _ hget hbodiless => hsession.grows.get_eq_of_not_hasBody hget hbodiless,
    resolve_eq_iff_agreesOn hclosed hsession.grows.outline_eq hstart hcandidates⟩

/-- A function that is declared first, and then defined by an empty body. -/
def declaredAndDefined : Arena where
  declarations := #[{ Declaration.func .anonymous .synthetic .plain [] with
      type := some ⟨20⟩
      storage := {.inference}
      entity := .func { next := some ⟨1⟩ } },
    { Declaration.ofBody [] with type := some ⟨20⟩ }]

theorem resolve_after_queries_declaredAndDefined :
    declaredAndDefined.Closed ∧
    ∃ session functions,
      run {} { arena := declaredAndDefined } [.infer ⟨1⟩ .nothrow] = .ok session ∧
      declaredAndDefined.candidates ⟨0⟩ = .ok functions ∧
      (∀ oracle templateArguments object arguments, ∃ resolution,
        declaredAndDefined.resolve oracle ⟨0⟩ templateArguments object arguments =
          .ok resolution) ∧
      (∀ function declaration, declaredAndDefined.get function = .ok declaration →
        declaration.hasBody = false → session.arena.get function = .ok declaration) ∧
      ((∀ oracle : MatchOracle, oracle.IgnoresAttributes →
        ∀ templateArguments object arguments,
          session.arena.resolve oracle ⟨0⟩ templateArguments object arguments =
            declaredAndDefined.resolve oracle ⟨0⟩ templateArguments object arguments) ↔
        ∀ declared ∈ functions, ∀ defined ∈ functions,
          declaredAndDefined.Counterparts declared defined →
          (session.arena.SameStorage declared defined ↔
            declaredAndDefined.SameStorage declared defined)) := by
  have hclosed : declaredAndDefined.Closed := by decide
  exact ⟨hclosed, resolve_after_queries hclosed (by decide) (by decide) (by decide)⟩

/-- A call that the definition wins is ambiguous once an attribute of the definition was inferred.
-/
theorem resolve_ne_after_queries_declaredAndDefined :
    MatchOracle.IgnoresAttributes (fun _ _ _ => .exact) ∧
    (do return (← declaredAndDefined.resolve (fun _ _ _ => .exact) ⟨0⟩ none none []).best?) =
      .ok (some ⟨1⟩) ∧
    (do
      let session ← run {} { arena := declaredAndDefined } [.infer ⟨1⟩ .nothrow]
      let resolution ← session.arena.resolve (fun _ _ _ => .exact) ⟨0⟩ none none []
      return resolution.isAmbiguous) = .ok true :=
  ⟨fun _ _ _ => rfl, rfl, rfl⟩

end Session

end Declarations
