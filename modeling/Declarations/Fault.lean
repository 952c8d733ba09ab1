import Declarations.Handle

/-!
# Faults

A handle that was not given out by an arena leads nowhere, a walk over declarations that are
contained in themselves never ends, and an arena that has given out every handle has no room for
another declaration.  An operation that meets one of these gives no answer, and what led to it is a
fault of the caller, not of the program under analysis.
-/

namespace Declarations

/-- Why an operation gave no answer. -/
inductive Fault where
  /-- A handle of no declaration was read. -/
  | noDeclaration (id : DeclId)
  /-- A handle of no aggregate was read. -/
  | noAggregate (id : AggregateId)
  /-- A walk went deeper than the arena is large. -/
  | unfinished
  /-- Every handle has been given out. -/
  | noRoom
  deriving DecidableEq

end Declarations
