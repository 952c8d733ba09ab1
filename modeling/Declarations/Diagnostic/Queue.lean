import Declarations.Diagnostic.Basic

/-!
# The diagnostic queue

The queue of one compilation unit.  It drops a diagnostic that is already waiting, stops taking
errors once there are too many of them, and hands the rest out in the order of their places.
-/

namespace Declarations

/-- What a queue refuses. -/
structure QueuePolicy where
  /-- The number of errors after which no more are taken; zero for no limit. -/
  errorLimit : Nat := 20
  /-- Whether a diagnostic that is already waiting is dropped. -/
  deduplicates : Bool := true
  deriving DecidableEq

def QueuePolicy.unlimited : QueuePolicy where
  errorLimit := 0
  deduplicates := false

/-- The diagnostics of one compilation unit. -/
structure DiagnosticQueue where
  policy : QueuePolicy := {}
  /-- The diagnostics that wait, in the order of arrival. -/
  waiting : List Diagnostic := []
  /-- The errors taken so far, those handed out included. -/
  errorCount : Nat := 0
  /-- Whether the limit was reached. -/
  isFull : Bool := false

namespace DiagnosticQueue

/-- The last error of a queue that is full. -/
def abortNotice : Diagnostic :=
  .error .tooManyErrors "aborting due to too many errors"

def reachesLimit (queue : DiagnosticQueue) (errors : Nat) : Bool :=
  0 < queue.policy.errorLimit && queue.policy.errorLimit ≤ errors

/-- Offers a diagnostic; the answer says whether it was taken.  The error that reaches the limit is
still taken, with a notice after it, and later errors are not.  Warnings and notes do not count. -/
def add (queue : DiagnosticQueue) (diagnostic : Diagnostic) : Bool × DiagnosticQueue :=
  if queue.policy.deduplicates && queue.waiting.contains diagnostic then
    (false, queue)
  else if !diagnostic.isError then
    (true, { queue with waiting := queue.waiting ++ [diagnostic] })
  else if queue.isFull then
    (false, queue)
  else if queue.reachesLimit (queue.errorCount + 1) then
    (true, { queue with
      waiting := queue.waiting ++ [diagnostic, abortNotice]
      errorCount := queue.errorCount + 1
      isFull := true })
  else
    (true, { queue with
      waiting := queue.waiting ++ [diagnostic]
      errorCount := queue.errorCount + 1 })

def hasErrors (queue : DiagnosticQueue) : Bool :=
  0 < queue.errorCount

/-- The key by which diagnostics are handed out: the start of the primary place.  A diagnostic
without one counts as placed at the last address. -/
def sortKey (diagnostic : Diagnostic) : UInt32 :=
  match diagnostic.primarySpan? with
  | some span => span.start
  | none => 4294967295

/-- Hands out every waiting diagnostic in the order of their places; those at one place stay in the
order of arrival. -/
def flush (queue : DiagnosticQueue) : List Diagnostic × DiagnosticQueue :=
  (queue.waiting.mergeSort fun earlier later => sortKey earlier ≤ sortKey later,
    { queue with waiting := [] })

end DiagnosticQueue

end Declarations
