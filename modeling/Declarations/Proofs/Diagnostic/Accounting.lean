import Declarations.Diagnostic.Queue
import Mathlib.Algebra.Order.Group.Multiset

/-!
# What becomes of the diagnostics

Whatever is done with a new queue, every diagnostic that it takes is handed out once or still waits,
and nothing else does, apart from the one notice of a queue that is full.  The number of errors
counts the errors that were taken, and the queue is full exactly when that number is the limit.
-/

namespace Declarations.DiagnosticQueue

inductive Operation where
  | add (diagnostic : Diagnostic)
  | flush
  deriving DecidableEq

inductive Answer where
  /-- Whether the diagnostic was taken. -/
  | offered (isTaken : Bool)
  /-- The diagnostics that were waiting. -/
  | flushed (diagnostics : List Diagnostic)
  deriving DecidableEq

def perform (queue : DiagnosticQueue) : Operation → Answer × DiagnosticQueue
  | .add diagnostic => (.offered (queue.add diagnostic).1, (queue.add diagnostic).2)
  | .flush => (.flushed queue.flush.1, queue.flush.2)

/-- Does one thing after the other with a queue.  Each is listed with its answer. -/
def run : DiagnosticQueue → List Operation → List (Operation × Answer) × DiagnosticQueue
  | queue, [] => ([], queue)
  | queue, operation :: rest =>
      let (answer, queue) := queue.perform operation
      let (exchanges, queue) := run queue rest
      ((operation, answer) :: exchanges, queue)

def taken : Operation × Answer → List Diagnostic
  | (.add diagnostic, .offered true) => [diagnostic]
  | _ => []

def handedOut : Operation × Answer → List Diagnostic
  | (.flush, .flushed diagnostics) => diagnostics
  | _ => []

/-- What a queue refuses: a diagnostic that waits already, if it drops those, and an error once it
is full. -/
def Refuses (queue : DiagnosticQueue) (diagnostic : Diagnostic) : Prop :=
  (queue.policy.deduplicates ∧ diagnostic ∈ queue.waiting) ∨ (diagnostic.isError ∧ queue.isFull)

def notices (queue : DiagnosticQueue) : List Diagnostic :=
  if queue.isFull then [abortNotice] else []

variable {queue : DiagnosticQueue} {diagnostic : Diagnostic}
variable {exchanges : List (Operation × Answer)} {policy : QueuePolicy}

/-! ## One operation -/

theorem add_of_refuses (hrefuses : queue.Refuses diagnostic) :
    queue.add diagnostic = (false, queue) := by
  cases hrefuses with
  | inl hwaits => simp [add, hwaits]
  | inr hfull => simp [add, hfull]

/-- A diagnostic that is no error is put behind the waiting ones. -/
theorem add_of_not_isError (htakes : ¬queue.Refuses diagnostic)
    (hkind : diagnostic.isError = false) :
    queue.add diagnostic = (true, { queue with waiting := queue.waiting ++ [diagnostic] }) := by
  have hnew : ¬(queue.policy.deduplicates ∧ diagnostic ∈ queue.waiting) := by
    intro hwaits
    exact htakes (.inl hwaits)
  simp [add, hnew, hkind]

theorem isFull_eq_false (htakes : ¬queue.Refuses diagnostic) (hkind : diagnostic.isError) :
    queue.isFull = false := by
  rw [← Bool.not_eq_true]
  intro hfull
  exact htakes (.inr ⟨hkind, hfull⟩)

/-- An error is counted, and the notice stands behind the one that reaches the limit. -/
theorem add_of_isError (htakes : ¬queue.Refuses diagnostic) (hkind : diagnostic.isError) :
    queue.add diagnostic = (true, { queue with
      waiting := queue.waiting ++ diagnostic ::
        if queue.reachesLimit (queue.errorCount + 1) then [abortNotice] else []
      errorCount := queue.errorCount + 1
      isFull := queue.reachesLimit (queue.errorCount + 1) }) := by
  have hnew : ¬(queue.policy.deduplicates ∧ diagnostic ∈ queue.waiting) := by
    intro hwaits
    exact htakes (.inl hwaits)
  have hopen := isFull_eq_false htakes hkind
  cases hlimit : queue.reachesLimit (queue.errorCount + 1) with
  | false => simp [add, hnew, hkind, hopen, hlimit]
  | true => simp [add, hnew, hkind, hopen, hlimit]

/-- A diagnostic is refused for one of two reasons only. -/
theorem add_fst_eq_false_iff (queue : DiagnosticQueue) (diagnostic : Diagnostic) :
    (queue.add diagnostic).1 = false ↔ queue.Refuses diagnostic := by
  constructor
  · intro hfalse
    by_contra htakes
    cases hkind : diagnostic.isError with
    | false => simp [add_of_not_isError htakes hkind] at hfalse
    | true => simp [add_of_isError htakes hkind] at hfalse
  · intro hrefuses
    rw [add_of_refuses hrefuses]

/-- Nothing that waits is lost when the diagnostics are handed out. -/
theorem flush_perm (queue : DiagnosticQueue) : queue.flush.1.Perm queue.waiting :=
  List.mergeSort_perm _ _

/-- Every diagnostic that was taken was handed out or waits, and the errors among them are counted
up to the limit. -/
structure Accounts (policy : QueuePolicy) (exchanges : List (Operation × Answer))
    (queue : DiagnosticQueue) : Prop where
  policy_eq : queue.policy = policy
  /-- Nothing is lost, and nothing is made up but the notice. -/
  balance : (exchanges.flatMap handedOut : Multiset Diagnostic) + queue.waiting =
    (exchanges.flatMap taken : Multiset Diagnostic) + queue.notices
  errorCount_eq : queue.errorCount = (exchanges.flatMap taken).countP Diagnostic.isError
  errorCount_le : 0 < policy.errorLimit → queue.errorCount ≤ policy.errorLimit
  isFull_iff : queue.isFull ↔ 0 < policy.errorLimit ∧ queue.errorCount = policy.errorLimit

namespace Accounts

theorem initial (policy : QueuePolicy) : Accounts policy [] { policy } where
  policy_eq := rfl
  balance := rfl
  errorCount_eq := rfl
  errorCount_le _ := Nat.zero_le _
  isFull_iff := by
    simp only [Bool.false_eq_true, false_iff, not_and]
    exact Nat.ne_of_lt

/-- The balance is kept if what an operation takes away from the waiting diagnostics and what it
puts there is handed out and taken. -/
theorem balance_concat (haccounts : Accounts policy exchanges queue) {exchange : Operation × Answer}
    {after : DiagnosticQueue}
    (hmoved : (handedOut exchange : Multiset Diagnostic) + after.waiting + queue.notices =
      queue.waiting + taken exchange + after.notices) :
    ((exchanges ++ [exchange]).flatMap handedOut : Multiset Diagnostic) + after.waiting =
      ((exchanges ++ [exchange]).flatMap taken : Multiset Diagnostic) + after.notices := by
  have hhanded : ((exchanges ++ [exchange]).flatMap handedOut : Multiset Diagnostic) =
      (exchanges.flatMap handedOut : Multiset Diagnostic) + handedOut exchange := by
    simp
  have htaken : ((exchanges ++ [exchange]).flatMap taken : Multiset Diagnostic) =
      (exchanges.flatMap taken : Multiset Diagnostic) + taken exchange := by
    simp
  rw [hhanded, htaken]
  -- The earlier balance has the earlier notices on one side, so they are added to both.
  apply add_right_cancel (b := (queue.notices : Multiset Diagnostic))
  calc
    (exchanges.flatMap handedOut : Multiset Diagnostic) + handedOut exchange + after.waiting +
        queue.notices =
        exchanges.flatMap handedOut + (handedOut exchange + after.waiting + queue.notices) := by
      ac_rfl
    _ = (exchanges.flatMap handedOut + queue.waiting) + (taken exchange + after.notices) := by
      rw [hmoved]
      ac_rfl
    _ = exchanges.flatMap taken + taken exchange + after.notices + queue.notices := by
      rw [haccounts.balance]
      ac_rfl

theorem refuse (haccounts : Accounts policy exchanges queue) (diagnostic : Diagnostic) :
    Accounts policy (exchanges ++ [(.add diagnostic, .offered false)]) queue where
  policy_eq := haccounts.policy_eq
  balance := by
    apply haccounts.balance_concat
    simp [handedOut, taken]
  errorCount_eq := by simpa [taken] using haccounts.errorCount_eq
  errorCount_le := haccounts.errorCount_le
  isFull_iff := haccounts.isFull_iff

/-- The waiting diagnostics are handed out in another order. -/
theorem flush (haccounts : Accounts policy exchanges queue) :
    Accounts policy (exchanges ++ [(.flush, .flushed queue.flush.1)]) queue.flush.2 where
  policy_eq := haccounts.policy_eq
  balance := by
    have hsame : (queue.flush.1 : Multiset Diagnostic) = queue.waiting :=
      Multiset.coe_eq_coe.mpr (flush_perm queue)
    apply haccounts.balance_concat
    have hnotices : queue.flush.2.notices = queue.notices := rfl
    rw [handedOut, hsame, hnotices]
    simp [taken, DiagnosticQueue.flush]
  errorCount_eq := by simpa [taken, DiagnosticQueue.flush] using haccounts.errorCount_eq
  errorCount_le := haccounts.errorCount_le
  isFull_iff := haccounts.isFull_iff

/-- A diagnostic that is no error is taken. -/
theorem take (haccounts : Accounts policy exchanges queue) (hkind : diagnostic.isError = false) :
    Accounts policy (exchanges ++ [(.add diagnostic, .offered true)])
      { queue with waiting := queue.waiting ++ [diagnostic] } where
  policy_eq := haccounts.policy_eq
  balance := by
    apply haccounts.balance_concat
    simp [handedOut, taken, notices, -Multiset.coe_singleton]
  errorCount_eq := by simpa [taken, hkind] using haccounts.errorCount_eq
  errorCount_le := haccounts.errorCount_le
  isFull_iff := haccounts.isFull_iff

/-- An error is taken. -/
theorem takeError (haccounts : Accounts policy exchanges queue) (hkind : diagnostic.isError)
    (hopen : queue.isFull = false) :
    Accounts policy (exchanges ++ [(.add diagnostic, .offered true)]) { queue with
      waiting := queue.waiting ++ diagnostic ::
        if queue.reachesLimit (queue.errorCount + 1) then [abortNotice] else []
      errorCount := queue.errorCount + 1
      isFull := queue.reachesLimit (queue.errorCount + 1) } := by
  have hbelow : 0 < policy.errorLimit → queue.errorCount < policy.errorLimit := by
    intro hlimit
    have hle := haccounts.errorCount_le hlimit
    have hne : queue.errorCount ≠ policy.errorLimit := by
      intro hreached
      have hfull := haccounts.isFull_iff.mpr ⟨hlimit, hreached⟩
      rw [hopen] at hfull
      contradiction
    exact Nat.lt_of_le_of_ne hle hne
  constructor
  · exact haccounts.policy_eq
  · apply haccounts.balance_concat
    cases hreached : queue.reachesLimit (queue.errorCount + 1) with
    | false => simp [handedOut, taken, notices, hopen, -Multiset.coe_singleton]
    | true => simp [handedOut, taken, notices, hopen, -Multiset.coe_singleton]
  · simpa [taken, hkind] using haccounts.errorCount_eq
  · exact hbelow
  · simp only [reachesLimit, haccounts.policy_eq]
    grind

theorem perform (haccounts : Accounts policy exchanges queue) (operation : Operation) :
    Accounts policy (exchanges ++ [(operation, (queue.perform operation).1)])
      (queue.perform operation).2 := by
  cases operation with
  | flush => exact haccounts.flush
  | add diagnostic =>
    simp only [DiagnosticQueue.perform]
    by_cases hrefuses : queue.Refuses diagnostic
    · rw [add_of_refuses hrefuses]
      exact haccounts.refuse diagnostic
    · cases hkind : diagnostic.isError with
      | false =>
        rw [add_of_not_isError hrefuses hkind]
        exact haccounts.take hkind
      | true =>
        rw [add_of_isError hrefuses hkind]
        exact haccounts.takeError hkind (isFull_eq_false hrefuses hkind)

theorem run (haccounts : Accounts policy exchanges queue) (operations : List Operation) :
    Accounts policy (exchanges ++ (queue.run operations).1) (queue.run operations).2 := by
  induction operations generalizing exchanges queue with
  | nil => simpa [DiagnosticQueue.run] using haccounts
  | cons operation rest ih => simpa [DiagnosticQueue.run] using ih (haccounts.perform operation)

end Accounts

/-! ## A whole run -/

/-- Every operation is answered in its turn. -/
theorem map_fst_run (queue : DiagnosticQueue) (operations : List Operation) :
    (queue.run operations).1.map Prod.fst = operations := by
  induction operations generalizing queue with
  | nil => rfl
  | cons operation rest ih => simp [run, ih]

/-- Whatever is done with a new queue, the diagnostics that it handed out and those that wait are
those that it took, and one notice if it is full; it counts the errors among them, and is full
exactly when there are as many as the limit allows; and the next diagnostic is refused for one of
two reasons only, which changes nothing. -/
theorem run_accounts (policy : QueuePolicy) (operations : List Operation) :
    let exchanges := (run { policy } operations).1
    let queue := (run { policy } operations).2
    exchanges.map Prod.fst = operations ∧ Accounts policy exchanges queue ∧
    ∀ diagnostic,
      ((queue.add diagnostic).1 = false ↔
        (policy.deduplicates ∧ diagnostic ∈ queue.waiting) ∨
          (diagnostic.isError ∧ queue.isFull)) ∧
      ((queue.add diagnostic).1 = false → (queue.add diagnostic).2 = queue) := by
  intro exchanges queue
  have haccounts : Accounts policy exchanges queue := (Accounts.initial policy).run operations
  refine ⟨map_fst_run _ operations, haccounts, ?_⟩
  intro diagnostic
  have hrefuses := add_fst_eq_false_iff queue diagnostic
  constructor
  · rw [hrefuses, Refuses, haccounts.policy_eq]
  · intro hfalse
    rw [add_of_refuses (hrefuses.mp hfalse)]

end Declarations.DiagnosticQueue
