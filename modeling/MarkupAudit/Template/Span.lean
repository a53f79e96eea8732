/-!
# Spans

A span is a half-open range of character offsets. Its ends are integers: an edit that comes from
outside may name any offsets, also negative ones or reversed ones, and still has to be answered.
-/

namespace MarkupAudit

/-- The half-open range of offsets `[start, stop)`. -/
structure Span where
  start : Int
  stop : Int
  deriving DecidableEq, Repr, Inhabited

namespace Span

/-- How many characters a span covers; negative for a reversed span. -/
def length (s : Span) : Int :=
  s.stop - s.start

/-- Whether two spans overlap. An empty span overlaps another one only if it lies strictly inside
it. -/
def overlaps (s t : Span) : Bool :=
  s.start < t.stop && t.start < s.stop

/-- A span moved by a number of characters. -/
def shift (s : Span) (n : Int) : Span :=
  ⟨s.start + n, s.stop + n⟩

end Span

end MarkupAudit
