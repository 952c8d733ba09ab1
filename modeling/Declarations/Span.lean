/-!
# Places in a source file

A span is a range of bytes.  A declaration keeps the span at which it was read, and a copy of it for
another template instance has the same span.
-/

namespace Declarations

/-- The bytes from `start` up to, but not including, `stop`. -/
structure Span where
  start : UInt32
  stop : UInt32
  deriving DecidableEq, Inhabited

namespace Span

/-- The span of a declaration that no source file contains. -/
def synthetic : Span :=
  ⟨0, 0⟩

def text (span : Span) : String :=
  toString span.start.toNat ++ ".." ++ toString span.stop.toNat

end Span

end Declarations
