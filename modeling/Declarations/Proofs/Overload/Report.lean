import Declarations.Error.Report
import Declarations.Overload.Call
import Declarations.Proofs.Overload.Standing

/-!
# The report of a call that nothing fits

The error of a call that no function fits holds the first candidate of the search.  The report of
the error goes through the overload set once more.  It points at every function that it finds, and
whether it says that there are none depends on the candidate in the error.  Both come from tours of
one set in one arena, so the report never contradicts itself.
-/

namespace Declarations

open DeclError

/-! ## The report of the error -/

def DeclError.Context.noOverloads (context : Context) (declaration : Declaration) : String :=
  context.quote declaration ++ " has no callable overloads"

/-- A report points at the candidates in their order, after what it points at already. -/
theorem pointAtCandidates_eq {context : Context} {functions : List DeclId}
    {found : List Declaration} (hfound : functions.mapM context.arena.get = .ok found)
    (report : Diagnostic) :
    context.pointAtCandidates report functions = .ok { report with
      markers := report.markers ++
        found.map fun declaration => ⟨declaration.span, "candidate", false⟩ } := by
  induction functions generalizing found report with
  | nil =>
    obtain rfl := Except.ok.inj hfound
    simp [Context.pointAtCandidates]
  | cons function functions ih =>
    rw [List.mapM_cons] at hfound
    obtain ⟨declaration, hget, hrest⟩ := bind_eq_ok_iff.mp hfound
    obtain ⟨others, hothers, hlist⟩ := bind_eq_ok_iff.mp hrest
    obtain rfl : declaration :: others = found := Except.ok.inj hlist
    have hnext := ih hothers (report.withRelated declaration.span "candidate")
    rw [Context.pointAtCandidates] at hnext ⊢
    rw [List.foldlM_cons, hget, ok_bind, pure_eq_ok, ok_bind, hnext]
    simp [Diagnostic.withRelated]

/-- The whole report of a call that nothing fits. -/
theorem report_noMatchingOverload {context : Context} {start : DeclId} {declaration : Declaration}
    {functions : List DeclId} {found : List Declaration}
    (hstart : context.arena.get start = .ok declaration)
    (hcandidates : context.arena.candidates start = .ok functions)
    (hfound : functions.mapM context.arena.get = .ok found) (span : Span)
    (candidate : Option DeclId) :
    (noMatchingOverload start span candidate).report context = .ok {
      code := .noMatchingOverload
      message := "none of the overloads of " ++ context.quote declaration ++
        " accept these arguments"
      markers := ⟨span, "no matching overload", true⟩ ::
        found.map fun other => ⟨other.span, "candidate", false⟩
      notes := if candidate.isNone then [context.noOverloads declaration] else [] } := by
  have hwarning : Code.isWarning .noMatchingOverload = false := by decide
  simp only [report, hstart, hcandidates, ok_bind, pointAtCandidates_eq hfound, pure_eq_ok]
  cases candidate <;>
    simp [headline, DeclError.code, hwarning, Diagnostic.error, Diagnostic.withPrimary,
      Diagnostic.withNote, Context.noOverloads]

/-! ## The error of a call -/

namespace Arena

variable {arena : Arena} {oracle : MatchOracle} {object : Option TypeRef}
  {templateArguments : Option (List TemplateArgument)} {arguments : List Argument}
  {start id named : DeclId} {site : UseSite} {span : Span} {candidate : Option DeclId}

/-- The only error of a use is that the declaration is disabled. -/
theorem error_of_checkUsable {namesSet : Bool} {cause : DeclError}
    (hcheck : arena.checkUsable id site namesSet = .ok (.error cause)) :
    cause = .disabled id site.span := by
  unfold checkUsable at hcheck
  obtain ⟨declaration, -, hcheck⟩ := bind_eq_ok_iff.mp hcheck
  split at hcheck
  · cases hcheck
  · obtain ⟨inside, -, hcheck⟩ := bind_eq_ok_iff.mp hcheck
    split at hcheck
    · cases hcheck
    · split at hcheck
      · obtain ⟨enabled, -, hcheck⟩ := bind_eq_ok_iff.mp hcheck
        cases enabled <;> simp_all
      · simpa [eq_comm] using hcheck

/-- The error names the set and the place of the call, and the candidate that the search has met
first. -/
theorem noMatchingOverload_of_resolveCall
    (hanswer : arena.resolveCall oracle start templateArguments object arguments site =
      .ok (.error (.noMatchingOverload named span candidate))) :
    ∃ resolution, arena.resolve oracle start templateArguments object arguments = .ok resolution ∧
      named = start ∧ span = site.span ∧ candidate = resolution.first := by
  unfold resolveCall at hanswer
  obtain ⟨resolution, hresolve, hanswer⟩ := bind_eq_ok_iff.mp hanswer
  refine ⟨resolution, hresolve, ?_⟩
  split at hanswer
  · simpa [eq_comm] using hanswer
  · simp at hanswer
  · next winner _ _ =>
    obtain ⟨checked, hcheck, hmap⟩ := bind_eq_ok_iff.mp hanswer
    cases checked with
    | ok => simp [Except.map] at hmap
    | error cause =>
      obtain rfl := error_of_checkUsable hcheck
      simp [Except.map] at hmap

/-- The report for a call that no function fits has the place of the call as its only primary place,
then the place of each function of the overload set in the order of the tour.  It says that there
are none exactly if it points at none. -/
theorem Closed.report_of_resolveCall (hclosed : arena.Closed) (hstart : start.number < arena.size)
    (interner : Interner)
    (hanswer : arena.resolveCall oracle start templateArguments object arguments site =
      .ok (.error (.noMatchingOverload named span candidate))) :
    ∃ declaration functions found report, arena.get start = .ok declaration ∧
      arena.candidates start = .ok functions ∧ functions.mapM arena.get = .ok found ∧
      (noMatchingOverload named span candidate).report ⟨arena, interner⟩ = .ok report ∧
      report.markers = ⟨site.span, "no matching overload", true⟩ ::
        found.map (fun other => ⟨other.span, "candidate", false⟩) ∧
      (Context.noOverloads ⟨arena, interner⟩ declaration ∈ report.notes ↔
        ∀ marker ∈ report.markers, marker.isPrimary = true) := by
  obtain ⟨declaration, hget⟩ := exists_get hstart
  obtain ⟨functions, resolution, hcandidates, hfunctions, hresolve, hfirst, -⟩ :=
    hclosed.exists_standing hstart oracle templateArguments object arguments
  have hread : ∀ function ∈ functions, ∃ shown, arena.get function = .ok shown :=
    fun function hmem => exists_get (hfunctions function hmem).lt
  obtain ⟨found, hfound, hmem_found⟩ := exists_mapM hread
  obtain ⟨other, hother, rfl, rfl, rfl⟩ := noMatchingOverload_of_resolveCall hanswer
  obtain rfl : resolution = other := Except.ok.inj (hresolve.symm.trans hother)
  refine ⟨declaration, functions, found, _, hget, hcandidates, hfound,
    report_noMatchingOverload hget hcandidates hfound site.span resolution.first, rfl, ?_⟩
  -- The note hangs on the search, and the markers on the second tour.
  have hnote : resolution.first.isNone = true ↔ functions = [] := by
    rw [hfirst, Option.isNone_iff_eq_none, List.head?_eq_none_iff]
  have hmarkers : functions = [] ↔ found = [] := by
    constructor
    · rintro rfl
      exact (Except.ok.inj hfound).symm
    · rintro rfl
      rw [List.eq_nil_iff_forall_not_mem]
      intro function hmem
      obtain ⟨shown, hshown⟩ := hread function hmem
      exact List.not_mem_nil ((hmem_found shown).mpr ⟨function, hmem, hshown⟩)
  have hsaid : Context.noOverloads ⟨arena, interner⟩ declaration ∈
      (if resolution.first.isNone then [Context.noOverloads ⟨arena, interner⟩ declaration]
        else []) ↔ resolution.first.isNone = true := by
    cases resolution.first <;> simp
  have hprimary : (∀ marker ∈ (⟨site.span, "no matching overload", true⟩ : Marker) ::
      found.map (fun other => ⟨other.span, "candidate", false⟩), marker.isPrimary = true) ↔
      found = [] := by
    simp [List.eq_nil_iff_forall_not_mem]
  exact hsaid.trans (hnote.trans (hmarkers.trans hprimary.symm))

/-- A call that gives an argument to a template fits none of the three functions. -/
theorem Closed.report_of_resolveCall_threeOverloads :
    threeOverloads.Closed ∧ (⟨0⟩ : DeclId).number < threeOverloads.size ∧
    threeOverloads.resolveCall conversionsOfNine.oracle ⟨0⟩ (some [.type ⟨9⟩]) none
      [⟨⟨9⟩, none, false⟩] ⟨none, ⟨20, 25⟩⟩ =
        .ok (.error (.noMatchingOverload ⟨0⟩ ⟨20, 25⟩ (some ⟨0⟩))) ∧
    ∃ declaration functions found report, threeOverloads.get ⟨0⟩ = .ok declaration ∧
      threeOverloads.candidates ⟨0⟩ = .ok functions ∧
      functions.mapM threeOverloads.get = .ok found ∧
      (noMatchingOverload ⟨0⟩ ⟨20, 25⟩ (some ⟨0⟩)).report ⟨threeOverloads, .initial⟩ = .ok report ∧
      report.markers = ⟨⟨20, 25⟩, "no matching overload", true⟩ ::
        found.map (fun other => ⟨other.span, "candidate", false⟩) ∧
      (Context.noOverloads ⟨threeOverloads, .initial⟩ declaration ∈ report.notes ↔
        ∀ marker ∈ report.markers, marker.isPrimary = true) := by
  have hclosed : threeOverloads.Closed := by decide
  have hsize : (⟨0⟩ : DeclId).number < threeOverloads.size := by decide
  have hanswer : threeOverloads.resolveCall conversionsOfNine.oracle ⟨0⟩ (some [.type ⟨9⟩]) none
      [⟨⟨9⟩, none, false⟩] ⟨none, ⟨20, 25⟩⟩ =
        .ok (.error (.noMatchingOverload ⟨0⟩ ⟨20, 25⟩ (some ⟨0⟩))) := by
    rfl
  exact ⟨hclosed, hsize, hanswer, hclosed.report_of_resolveCall hsize .initial hanswer⟩

end Arena

end Declarations
