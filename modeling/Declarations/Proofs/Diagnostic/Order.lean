import Declarations.Proofs.Diagnostic.Accounting

/-!
# The order in which diagnostics are handed out

The diagnostics that wait are sorted by the address where they are placed, and those with the same
address stay in the order of arrival.  A diagnostic without a place is sorted as if it were at the
last address.  So it comes behind all diagnostics that have a place, unless one of those is at the
last address itself and arrived later.
-/

namespace Declarations

/-- The address at which a diagnostic is placed: the start of its first primary place. -/
def Diagnostic.start? (diagnostic : Diagnostic) : Option UInt32 :=
  diagnostic.primarySpan?.map Span.start

namespace DiagnosticQueue

def lastAddress : UInt32 :=
  4294967295

/-- No diagnostic that has a place comes behind one that has none. -/
def UnplacedLast (diagnostics : List Diagnostic) : Prop :=
  diagnostics.Pairwise fun earlier later => earlier.start? = none → later.start? = none

/-- Diagnostics are handed out in the order of their places, and where that leaves a choice, in the
order in which they were waiting. -/
structure InOrder (waiting handedOut : List Diagnostic) : Prop where
  perm : handedOut.Perm waiting
  pairwise_start : (handedOut.filterMap Diagnostic.start?).Pairwise (· ≤ ·)
  filter_start : ∀ start, handedOut.filter (·.start? = some start) =
    waiting.filter (·.start? = some start)
  filter_unplaced : handedOut.filter (·.start? = none) = waiting.filter (·.start? = none)
  /-- Behind a diagnostic without a place only the last address is left. -/
  unplaced_late : handedOut.Pairwise fun earlier later => earlier.start? = none →
    ∀ start, later.start? = some start → start = lastAddress

variable {queue : DiagnosticQueue} {diagnostic : Diagnostic}

theorem sortKey_eq (diagnostic : Diagnostic) :
    sortKey diagnostic = diagnostic.start?.getD lastAddress := by
  simp only [sortKey, Diagnostic.start?]
  cases diagnostic.primarySpan? <;> rfl

theorem le_lastAddress (address : UInt32) : address ≤ lastAddress := by
  rw [UInt32.le_iff_toNat_le]
  have hbound : address.toNat < 2 ^ 32 := address.toNat_lt
  have hlast : lastAddress.toNat = 4294967295 := rfl
  omega

/-- The last address is the key of a diagnostic without a place, and of one that is placed there. -/
theorem sortKey_eq_lastAddress_iff :
    sortKey diagnostic = lastAddress ↔
      diagnostic.start? = none ∨ diagnostic.start? = some lastAddress := by
  rw [sortKey_eq]
  cases diagnostic.start? <;> simp

/-! ## Sorting by the key -/

theorem sortKey_le_trans (first second third : Diagnostic)
    (hfirst : decide (sortKey first ≤ sortKey second) = true)
    (hsecond : decide (sortKey second ≤ sortKey third) = true) :
    decide (sortKey first ≤ sortKey third) = true :=
  decide_eq_true (UInt32.le_trans (of_decide_eq_true hfirst) (of_decide_eq_true hsecond))

theorem sortKey_le_total (left right : Diagnostic) :
    (decide (sortKey left ≤ sortKey right) || decide (sortKey right ≤ sortKey left)) = true := by
  simpa using UInt32.le_total (sortKey left) (sortKey right)

theorem pairwise_sortKey_flush (queue : DiagnosticQueue) :
    queue.flush.1.Pairwise fun earlier later => sortKey earlier ≤ sortKey later := by
  have hsorted := List.pairwise_mergeSort sortKey_le_trans sortKey_le_total queue.waiting
  exact hsorted.imp of_decide_eq_true

/-- Diagnostics with the same key are handed out in the order of arrival. -/
theorem filter_flush (queue : DiagnosticQueue) (wanted : Diagnostic → Bool)
    (hsame : ∀ left right, wanted left → wanted right → sortKey left = sortKey right) :
    queue.flush.1.filter wanted = queue.waiting.filter wanted := by
  have hsorted : (queue.waiting.filter wanted).Pairwise fun earlier later =>
      decide (sortKey earlier ≤ sortKey later) = true := by
    rw [List.pairwise_filter]
    exact List.pairwise_of_forall fun left right hleft hright =>
      decide_eq_true (UInt32.le_of_eq (hsame left right hleft hright))
  have hkept : (queue.waiting.filter wanted).Sublist queue.flush.1 :=
    List.sublist_mergeSort sortKey_le_trans sortKey_le_total hsorted List.filter_sublist
  -- The wanted ones are among those handed out in this order, and there are no more of them.
  have hwanted : (queue.waiting.filter wanted).Sublist (queue.flush.1.filter wanted) := by
    simpa using hkept.filter wanted
  have hlength := ((flush_perm queue).filter wanted).length_eq
  exact (hwanted.eq_of_length_le hlength.le).symm

theorem pairwise_start_flush (queue : DiagnosticQueue) :
    (queue.flush.1.filterMap Diagnostic.start?).Pairwise (· ≤ ·) := by
  rw [List.pairwise_filterMap]
  refine (pairwise_sortKey_flush queue).imp ?_
  intro earlier later hle start hstart address haddress
  rwa [sortKey_eq, sortKey_eq, hstart, haddress] at hle

theorem unplaced_late_flush (queue : DiagnosticQueue) :
    queue.flush.1.Pairwise fun earlier later => earlier.start? = none →
      ∀ start, later.start? = some start → start = lastAddress := by
  refine (pairwise_sortKey_flush queue).imp ?_
  intro earlier later hle hunplaced start hstart
  rw [sortKey_eq, sortKey_eq, hunplaced, hstart] at hle
  exact UInt32.le_antisymm (le_lastAddress start) hle

theorem inOrder_flush (queue : DiagnosticQueue) : InOrder queue.waiting queue.flush.1 where
  perm := flush_perm queue
  pairwise_start := pairwise_start_flush queue
  filter_start start := by
    apply filter_flush
    intro left right hleft hright
    rw [sortKey_eq, sortKey_eq, of_decide_eq_true hleft, of_decide_eq_true hright]
  filter_unplaced := by
    apply filter_flush
    intro left right hleft hright
    rw [sortKey_eq, sortKey_eq, of_decide_eq_true hleft, of_decide_eq_true hright]
  unplaced_late := unplaced_late_flush queue

/-! ## The last address -/

def LastAddressFirst (diagnostics : List Diagnostic) : Prop :=
  diagnostics.Pairwise fun earlier later =>
    earlier.start? = none → later.start? ≠ some lastAddress

/-- Whether that is so can be seen from the diagnostics with the highest key alone. -/
theorem lastAddressFirst_filter_iff (diagnostics : List Diagnostic) :
    LastAddressFirst (diagnostics.filter (sortKey · = lastAddress)) ↔
      LastAddressFirst diagnostics := by
  rw [LastAddressFirst, List.pairwise_filter]
  apply List.Pairwise.iff
  intro earlier later
  simp only [decide_eq_true_eq, sortKey_eq_lastAddress_iff]
  grind

/-- At all other addresses the diagnostics with a place come first anyway. -/
theorem unplacedLast_flush_iff (queue : DiagnosticQueue) :
    UnplacedLast queue.flush.1 ↔ LastAddressFirst queue.flush.1 := by
  constructor
  · intro hlast
    refine hlast.imp ?_
    intro earlier later hunplaced hearlier hlater
    rw [hunplaced hearlier] at hlater
    contradiction
  · intro hfirst
    refine ((unplaced_late_flush queue).and hfirst).imp ?_
    rintro earlier later ⟨hlate, hnot⟩ hearlier
    cases hlater : later.start? with
    | none => rfl
    | some start => exact absurd (hlate hearlier start hlater ▸ hlater) (hnot hearlier)

theorem lastAddressFirst_flush_iff (queue : DiagnosticQueue) :
    LastAddressFirst queue.flush.1 ↔ LastAddressFirst queue.waiting := by
  have hsame : queue.flush.1.filter (sortKey · = lastAddress) =
      queue.waiting.filter (sortKey · = lastAddress) := by
    apply filter_flush
    intro left right hleft hright
    rw [of_decide_eq_true hleft, of_decide_eq_true hright]
  rw [← lastAddressFirst_filter_iff queue.flush.1, hsame, lastAddressFirst_filter_iff]

/-- Whatever waits in a queue is handed out in the order of places, and in the order of arrival
where places are the same.  The diagnostics without a place come last unless one at the last address
arrived behind one of them. -/
theorem flush_ordered (queue : DiagnosticQueue) :
    InOrder queue.waiting queue.flush.1 ∧
      (UnplacedLast queue.flush.1 ↔ LastAddressFirst queue.waiting) := by
  refine ⟨inOrder_flush queue, ?_⟩
  rw [unplacedLast_flush_iff, lastAddressFirst_flush_iff]

def placeless : Diagnostic :=
  .error .noMatchingOverload "a"

/-- An error at the end of a source file of the greatest length. -/
def atLastAddress : Diagnostic :=
  (Diagnostic.error .noMatchingOverload "b").withPrimary ⟨lastAddress, lastAddress⟩ "here"

/-- A queue at which an error without a place arrived first, and then one at the last address. -/
def placelessFirst : DiagnosticQueue :=
  (run { policy := .unlimited } [.add placeless, .add atLastAddress]).2

/-- The error at the last address stays behind the one without a place. -/
theorem flush_placelessFirst :
    placelessFirst.flush.1 = [placeless, atLastAddress] ∧
      ¬UnplacedLast placelessFirst.flush.1 := by
  have hwaiting : placelessFirst.waiting = [placeless, atLastAddress] := by decide
  have hflush : placelessFirst.flush.1 = [placeless, atLastAddress] := by
    rw [flush, hwaiting]
    exact List.mergeSort_of_pairwise (by decide)
  refine ⟨hflush, ?_⟩
  rw [hflush, UnplacedLast]
  decide

end DiagnosticQueue

end Declarations
