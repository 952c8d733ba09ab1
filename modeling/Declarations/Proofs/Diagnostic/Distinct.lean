import Declarations.Proofs.Diagnostic.Accounting
import Mathlib.Data.List.DropRight
import Mathlib.Data.List.Nodup

/-!
# Whether all waiting diagnostics are different

A queue that drops what is waiting already takes no diagnostic twice before the next flush.  The
notice of a queue that is full comes without being offered, and nobody looks whether it is waiting
already.  So the waiting diagnostics are all different, unless the notice itself was offered and
taken, and the queue became full before it was handed out; then the notice waits twice.
-/

namespace Declarations.DiagnosticQueue

/-- The diagnostics that were taken since diagnostics were last handed out. -/
def batch (exchanges : List (Operation × Answer)) : List Diagnostic :=
  (exchanges.rtakeWhile fun exchange => exchange.1 ≠ .flush).flatMap taken

def waitingNotices (exchanges : List (Operation × Answer)) (queue : DiagnosticQueue) :
    List Diagnostic :=
  if (batch exchanges).any Diagnostic.isError then queue.notices else []

/-- The diagnostics that wait are those that were taken since the last flush, each of them once, and
the notice if one of them reached the limit. -/
structure Waits (exchanges : List (Operation × Answer)) (queue : DiagnosticQueue) : Prop where
  deduplicates : queue.policy.deduplicates = true
  nodup_batch : (batch exchanges).Nodup
  waiting_perm : queue.waiting.Perm (batch exchanges ++ waitingNotices exchanges queue)

variable {queue : DiagnosticQueue} {diagnostic : Diagnostic} {policy : QueuePolicy}
variable {exchanges : List (Operation × Answer)}

@[simp]
theorem batch_concat_flush (answer : Answer) : batch (exchanges ++ [(.flush, answer)]) = [] := by
  simp [batch]

@[simp]
theorem batch_concat_add (answer : Answer) : batch (exchanges ++ [(.add diagnostic, answer)]) =
    batch exchanges ++ taken (.add diagnostic, answer) := by
  simp [batch]

namespace Waits

theorem initial (hdeduplicates : policy.deduplicates = true) : Waits [] { policy } where
  deduplicates := hdeduplicates
  nodup_batch := .nil
  waiting_perm := .nil

/-- A diagnostic that is not refused is not among those taken since the last flush. -/
theorem notMem_batch (hwaits : Waits exchanges queue) (htakes : ¬queue.Refuses diagnostic) :
    diagnostic ∉ batch exchanges := by
  intro htaken
  have hwaiting : diagnostic ∈ queue.waiting :=
    hwaits.waiting_perm.mem_iff.mpr (List.mem_append_left _ htaken)
  exact htakes (.inl ⟨hwaits.deduplicates, hwaiting⟩)

theorem nodup_concat (hwaits : Waits exchanges queue) (htakes : ¬queue.Refuses diagnostic) :
    (batch exchanges ++ [diagnostic]).Nodup := by
  rw [← List.concat_eq_append]
  exact hwaits.nodup_batch.concat (hwaits.notMem_batch htakes)

theorem refuse (hwaits : Waits exchanges queue) (diagnostic : Diagnostic) :
    Waits (exchanges ++ [(.add diagnostic, .offered false)]) queue where
  deduplicates := hwaits.deduplicates
  nodup_batch := by simpa [taken] using hwaits.nodup_batch
  waiting_perm := by simpa [taken, waitingNotices] using hwaits.waiting_perm

theorem flush (hwaits : Waits exchanges queue) :
    Waits (exchanges ++ [(.flush, .flushed queue.flush.1)]) queue.flush.2 where
  deduplicates := hwaits.deduplicates
  nodup_batch := by simp
  waiting_perm := by simp [DiagnosticQueue.flush, waitingNotices]

/-- A diagnostic that is no error is taken. -/
theorem take (hwaits : Waits exchanges queue) (htakes : ¬queue.Refuses diagnostic)
    (hkind : diagnostic.isError = false) :
    Waits (exchanges ++ [(.add diagnostic, .offered true)])
      { queue with waiting := queue.waiting ++ [diagnostic] } where
  deduplicates := hwaits.deduplicates
  nodup_batch := by simpa [taken] using hwaits.nodup_concat htakes
  waiting_perm := by
    have hnotices : waitingNotices (exchanges ++ [(.add diagnostic, .offered true)])
        { queue with waiting := queue.waiting ++ [diagnostic] } =
          waitingNotices exchanges queue := by
      simp [waitingNotices, taken, hkind, notices]
    rw [hnotices, batch_concat_add, taken]
    have hbehind : ((batch exchanges ++ waitingNotices exchanges queue) ++ [diagnostic]).Perm
        ((batch exchanges ++ [diagnostic]) ++ waitingNotices exchanges queue) := by
      rw [List.append_assoc, List.append_assoc]
      exact List.perm_append_comm.append_left _
    exact (hwaits.waiting_perm.append_right _).trans hbehind

/-- An error is taken. -/
theorem takeError (hwaits : Waits exchanges queue) (htakes : ¬queue.Refuses diagnostic)
    (hkind : diagnostic.isError) :
    Waits (exchanges ++ [(.add diagnostic, .offered true)]) { queue with
      waiting := queue.waiting ++ diagnostic ::
        if queue.reachesLimit (queue.errorCount + 1) then [abortNotice] else []
      errorCount := queue.errorCount + 1
      isFull := queue.reachesLimit (queue.errorCount + 1) } where
  deduplicates := hwaits.deduplicates
  nodup_batch := by simpa [taken] using hwaits.nodup_concat htakes
  waiting_perm := by
    -- The queue was not full, so no notice was waiting.
    have hopen := isFull_eq_false htakes hkind
    have hwaiting : queue.waiting.Perm (batch exchanges) := by
      simpa [waitingNotices, notices, hopen] using hwaits.waiting_perm
    simpa [waitingNotices, taken, hkind, notices] using hwaiting.append_right _

theorem perform (hwaits : Waits exchanges queue) (operation : Operation) :
    Waits (exchanges ++ [(operation, (queue.perform operation).1)])
      (queue.perform operation).2 := by
  cases operation with
  | flush => exact hwaits.flush
  | add diagnostic =>
    simp only [DiagnosticQueue.perform]
    by_cases hrefuses : queue.Refuses diagnostic
    · rw [add_of_refuses hrefuses]
      exact hwaits.refuse diagnostic
    · cases hkind : diagnostic.isError with
      | false =>
        rw [add_of_not_isError hrefuses hkind]
        exact hwaits.take hrefuses hkind
      | true =>
        rw [add_of_isError hrefuses hkind]
        exact hwaits.takeError hrefuses hkind

theorem run (hwaits : Waits exchanges queue) (operations : List Operation) :
    Waits (exchanges ++ (queue.run operations).1) (queue.run operations).2 := by
  induction operations generalizing exchanges queue with
  | nil => simpa [DiagnosticQueue.run] using hwaits
  | cons operation rest ih => simpa [DiagnosticQueue.run] using ih (hwaits.perform operation)

/-- The notice is an error: where it was taken, one of the errors reached the limit of a full
queue. -/
theorem waitingNotices_of_mem (hnotice : abortNotice ∈ batch exchanges) :
    waitingNotices exchanges queue = queue.notices := by
  have hany : (batch exchanges).any Diagnostic.isError = true :=
    List.any_eq_true.mpr ⟨abortNotice, hnotice, rfl⟩
  rw [waitingNotices, if_pos hany]

theorem eq_of_mem_waitingNotices (hnotice : diagnostic ∈ waitingNotices exchanges queue) :
    diagnostic = abortNotice ∧ queue.isFull := by
  unfold waitingNotices notices at hnotice
  grind

theorem waitingNotices_cases (exchanges : List (Operation × Answer)) (queue : DiagnosticQueue) :
    waitingNotices exchanges queue = [] ∨ waitingNotices exchanges queue = [abortNotice] := by
  unfold waitingNotices notices
  grind

/-- The waiting diagnostics are different unless the notice was taken and then put there again. -/
theorem nodup_waiting_iff (hwaits : Waits exchanges queue) :
    queue.waiting.Nodup ↔ ¬(queue.isFull ∧ abortNotice ∈ batch exchanges) := by
  rw [hwaits.waiting_perm.nodup_iff, List.nodup_append']
  constructor
  · rintro ⟨-, -, hdisjoint⟩ ⟨hfull, hnotice⟩
    refine hdisjoint hnotice ?_
    rw [waitingNotices_of_mem hnotice, notices, if_pos hfull]
    exact List.mem_singleton_self _
  · intro honce
    have hnotices : (waitingNotices exchanges queue).Nodup := by
      obtain hnone | hone := waitingNotices_cases exchanges queue
      · rw [hnone]
        exact List.nodup_nil
      · rw [hone]
        exact List.nodup_singleton _
    refine ⟨hwaits.nodup_batch, hnotices, ?_⟩
    intro diagnostic htaken hnotice
    obtain ⟨rfl, hfull⟩ := eq_of_mem_waitingNotices hnotice
    exact honce ⟨hfull, htaken⟩

/-- Apart from one notice all waiting diagnostics are different. -/
theorem nodup_erase_abortNotice (hwaits : Waits exchanges queue) :
    (queue.waiting.erase abortNotice).Nodup := by
  rw [(hwaits.waiting_perm.erase abortNotice).nodup_iff]
  obtain hnone | hone := waitingNotices_cases exchanges queue
  · rw [hnone, List.append_nil]
    exact hwaits.nodup_batch.erase abortNotice
  · have hfront : (batch exchanges ++ [abortNotice]).Perm (abortNotice :: batch exchanges) :=
      List.perm_append_singleton abortNotice _
    rw [hone, (hfront.erase abortNotice).nodup_iff, List.erase_cons_head]
    exact hwaits.nodup_batch

end Waits

/-- What was taken was offered. -/
theorem mem_map_fst_of_mem_batch (htaken : diagnostic ∈ batch exchanges) :
    .add diagnostic ∈ exchanges.map Prod.fst := by
  obtain ⟨exchange, hexchange, htaken⟩ := List.mem_flatMap.mp htaken
  have hoffered : exchange.1 = .add diagnostic := by
    unfold taken at htaken
    grind
  exact List.mem_map.mpr ⟨exchange, (List.rtakeWhile_suffix _ _).mem hexchange, hoffered⟩

/-- In a new queue that drops what is waiting already, all waiting diagnostics are different at
every time, and so are those that are handed out, unless the queue is full and the notice was taken
since the last flush.  Then the notice waits twice, and nothing else does.  This cannot come about
if the notice is never offered. -/
theorem run_waiting_nodup_iff (hdeduplicates : policy.deduplicates = true)
    (operations : List Operation) :
    let exchanges := (run { policy } operations).1
    let queue := (run { policy } operations).2
    (queue.waiting.Nodup ↔ ¬(queue.isFull ∧ abortNotice ∈ batch exchanges)) ∧
      (queue.flush.1.Nodup ↔ queue.waiting.Nodup) ∧
      (queue.waiting.erase abortNotice).Nodup ∧
      (.add abortNotice ∉ operations → queue.waiting.Nodup) := by
  intro exchanges queue
  have hwaits : Waits exchanges queue := (Waits.initial hdeduplicates).run operations
  refine ⟨hwaits.nodup_waiting_iff, (flush_perm queue).nodup_iff, hwaits.nodup_erase_abortNotice,
    ?_⟩
  intro hnever
  rw [hwaits.nodup_waiting_iff]
  rintro ⟨-, hnotice⟩
  have hoffered := mem_map_fst_of_mem_batch hnotice
  rw [map_fst_run] at hoffered
  exact hnever hoffered

/-- Two errors and a repetition, then the notice, which is refused because the queue is full. -/
def fullAfterTwo : List Operation :=
  [.add (.error .ambiguousCall "a"), .add (.error .ambiguousCall "a"),
    .add (.error .ambiguousCall "b"), .add abortNotice]

theorem run_waiting_nodup_iff_fullAfterTwo :
    (⟨2, true⟩ : QueuePolicy).deduplicates = true ∧
    let exchanges := (run { policy := ⟨2, true⟩ } fullAfterTwo).1
    let queue := (run { policy := ⟨2, true⟩ } fullAfterTwo).2
    (queue.waiting.Nodup ↔ ¬(queue.isFull ∧ abortNotice ∈ batch exchanges)) ∧
      (queue.flush.1.Nodup ↔ queue.waiting.Nodup) ∧
      (queue.waiting.erase abortNotice).Nodup ∧
      (.add abortNotice ∉ fullAfterTwo → queue.waiting.Nodup) :=
  ⟨rfl, run_waiting_nodup_iff rfl fullAfterTwo⟩

/-- The first error that a queue takes is the notice itself, and it reaches the limit. -/
theorem run_waiting_notice_twice :
    (run { policy := ⟨1, true⟩ } [.add abortNotice]).2.waiting = [abortNotice, abortNotice] ∧
      ¬(run { policy := ⟨1, true⟩ } [.add abortNotice]).2.waiting.Nodup := by
  have hwaiting : (run { policy := ⟨1, true⟩ } [.add abortNotice]).2.waiting =
      [abortNotice, abortNotice] := by
    decide
  refine ⟨hwaiting, ?_⟩
  rw [hwaiting]
  simp

end Declarations.DiagnosticQueue
