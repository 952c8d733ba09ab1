import Declarations.Proofs.Inference.Query

/-!
# Runs of operations

A compiler works on an arena by a sequence of operations: it asks for attributes, checks those that
are written in the source, and reports what it has found out later.  A run is such a sequence, and
it begins with no open question.
-/

namespace Declarations

/-- An operation on the attributes of the functions of an arena. -/
inductive Operation where
  | infer (function : DeclId) (wanted : Attribute)
  | inferAll (function : DeclId)
  | verify (function : DeclId)
  | downgrade (function : DeclId) (wanted : Attribute) (cause : Option Effect)
  | recordEffect (function : DeclId) (effect : Effect)
  | checkClosure (function : DeclId)
  deriving DecidableEq

namespace Operation

def handles : Operation → List DeclId
  | infer function _ | inferAll function | verify function | downgrade function _ _
  | checkClosure function => [function]
  | recordEffect function effect => function :: effect.handles

def isQuery : Operation → Bool
  | infer _ _ | inferAll _ | verify _ => true
  | downgrade _ _ _ | recordEffect _ _ | checkClosure _ => false

end Operation

def Declaration.ofBody (effects : List Effect) : Declaration :=
  { Declaration.func .anonymous .synthetic .plain [] with
    storage := {.inference}
    entity := .func { body := some { effects } } }

namespace Session

open Arena

def perform (config : Config) (session : Session) : Operation → Except Fault Session
  | .infer function wanted => do return (← session.infer config function wanted).2
  | .inferAll function => do return (← session.inferAll config function).2
  | .verify function => do return (← session.verify config function).2
  | .downgrade function wanted cause => do
      let (_, arena) ← session.arena.downgrade config function wanted cause
      return { session with arena }
  | .recordEffect function effect => do return (← session.recordEffect config function effect).2
  | .checkClosure function => do return (← session.checkClosure config function).2

def run (config : Config) (session : Session) (operations : List Operation) :
    Except Fault Session :=
  operations.foldlM (perform config) session

variable {session : Session} {config : Config} {wanted : Attribute}

@[simp]
theorem run_cons {operation : Operation} {operations : List Operation} :
    session.run config (operation :: operations) =
      session.perform config operation >>= fun next => next.run config operations :=
  rfl

/-- A query gives an answer and settles nothing wrongly. -/
theorem perform_query_follows (config : Config) (hidle : session.Idle) {query : Operation}
    (hquery : query.isQuery = true)
    (hhandles : ∀ handle ∈ query.handles, handle.number < session.arena.size) :
    ∃ after, session.perform config query = .ok after ∧ Follows config session after := by
  cases query with
  | infer function wanted =>
    obtain ⟨target, holds, after, -, -, hrun, hanswered⟩ := infer_answered config wanted hidle
      (hhandles function (by simp [Operation.handles]))
    exact ⟨after, by simp [perform, hrun], hanswered.follows⟩
  | inferAll function =>
    obtain ⟨held, after, hrun, hafter⟩ := inferAll_follows config hidle
      (hhandles function (by simp [Operation.handles]))
    exact ⟨after, by simp [perform, hrun], hafter⟩
  | verify function =>
    obtain ⟨errors, after, hrun, hafter⟩ := verify_follows config hidle
      (hhandles function (by simp [Operation.handles]))
    exact ⟨after, by simp [perform, hrun], hafter⟩
  | downgrade | recordEffect | checkClosure => contradiction

/-- So does a sequence of queries. -/
theorem run_queries_follows (config : Config) (hidle : session.Idle) {queries : List Operation}
    (hqueries : ∀ query ∈ queries, query.isQuery = true)
    (hhandles : ∀ query ∈ queries, ∀ handle ∈ query.handles,
      handle.number < session.arena.size) :
    ∃ after, session.run config queries = .ok after ∧ Follows config session after := by
  induction queries generalizing session with
  | nil => exact ⟨session, rfl, hidle.follows⟩
  | cons query queries ih =>
    obtain ⟨middle, hperform, hmiddle⟩ := perform_query_follows config hidle
      (hqueries query List.mem_cons_self) (hhandles query List.mem_cons_self)
    obtain ⟨after, hrest, hafter⟩ := ih hmiddle.idle
      (fun other hother => hqueries other (List.mem_cons_of_mem query hother))
      (by
        rw [hmiddle.grows.size_eq]
        exact fun other hother => hhandles other (List.mem_cons_of_mem query hother))
    exact ⟨after, by rw [run_cons, hperform, ok_bind, hrest], hmiddle.trans hafter⟩

/-- After any queries the answer for a function is the greatest fixed point of the arena with which
they began: the attribute was known to hold, or the function belongs to the largest set of undecided
functions that support each other.  So it is the same for all functions of a cycle of calls. -/
theorem infer_after_queries {arena : Arena} (hclosed : arena.Closed) {queries : List Operation}
    (hqueries : ∀ query ∈ queries, query.isQuery = true)
    (hhandles : ∀ query ∈ queries, ∀ handle ∈ query.handles, handle.number < arena.size)
    {function : DeclId} (hfunction : function.number < arena.size) :
    ∃ target session holds after, arena.aliasedFunction function = .ok target ∧
      run config { arena } queries = .ok session ∧
      session.infer config function wanted = .ok (holds, after) ∧
      (holds = true ↔ target ∈ arena.withStatus config wanted .holds ∪
        arena.selfSupporting config wanted) ∧
      ∀ other, Relation.ReflTransGen (arena.DependsOn config wanted) target other →
        Relation.ReflTransGen (arena.DependsOn config wanted) other target →
        (other ∈ arena.withStatus config wanted .holds ∪ arena.selfSupporting config wanted ↔
          holds = true) := by
  have hidle : Session.Idle { arena } := ⟨rfl, hclosed⟩
  obtain ⟨session, hrun, hsession⟩ :=
    run_queries_follows config hidle hqueries hhandles
  have hbound : function.number < session.arena.size := by rwa [hsession.grows.size_eq]
  obtain ⟨target, holds, after, halias, -, hinfer, hanswered⟩ :=
    infer_answered config wanted hsession.idle hbound
  rw [hsession.grows.aliasedFunction_eq] at halias
  have hholds : holds = true ↔ target ∈ arena.entitled config wanted := by
    rw [hanswered.holds_iff fun hsubset hmem => hsubset hmem, hsession.grows.entitled_eq]
  refine ⟨target, session, holds, after, halias, hrun, hinfer, hholds, ?_⟩
  intro other hthere hback
  rw [hholds]
  exact entitled_iff_of_cycle hthere hback

/-- Two functions that call each other, one of which may throw. -/
def throwingCycle : Arena where
  declarations := #[.ofBody [.call ⟨1⟩ .synthetic],
    .ofBody [.throwing .synthetic, .call ⟨0⟩ .synthetic]]

theorem infer_after_queries_throwingCycle :
    throwingCycle.Closed ∧
    ∃ target session holds after, throwingCycle.aliasedFunction ⟨0⟩ = .ok target ∧
      run {} { arena := throwingCycle } [.infer ⟨1⟩ .purity, .verify ⟨0⟩] = .ok session ∧
      session.infer {} ⟨0⟩ .nothrow = .ok (holds, after) ∧
      (holds = true ↔ target ∈ throwingCycle.withStatus {} .nothrow .holds ∪
        throwingCycle.selfSupporting {} .nothrow) ∧
      ∀ other, Relation.ReflTransGen (throwingCycle.DependsOn {} .nothrow) target other →
        Relation.ReflTransGen (throwingCycle.DependsOn {} .nothrow) other target →
        (other ∈ throwingCycle.withStatus {} .nothrow .holds ∪
          throwingCycle.selfSupporting {} .nothrow ↔ holds = true) := by
  have hclosed : throwingCycle.Closed := by decide
  exact ⟨hclosed, infer_after_queries hclosed (by decide) (by decide) (by decide)⟩

end Session

end Declarations
