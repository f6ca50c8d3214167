/-! # Byte ranges of a text

A **`Span`** is a half-open range of byte offsets. `Span.ofBounds?` is the checked way to make one;
the fields are public because a span that came from elsewhere may be inverted, and its operations
then still have an answer. -/

namespace GrammarLang.Text

/-- The bytes from `start` up to, but not including, `stop`. -/
structure Span where
  /-- Offset of the first byte. -/
  start : Nat
  /-- Offset just behind the last byte. -/
  stop : Nat
  deriving DecidableEq, Repr, Inhabited

namespace Span

/-- The span between two offsets in order. -/
def ofBounds? (start stop : Nat) : Option Span :=
  if start ≤ stop then some ⟨start, stop⟩ else none

/-- The empty span at one offset. -/
def point (offset : Nat) : Span := ⟨offset, offset⟩

/-- Whether a span holds no byte; an inverted one holds none. -/
def isEmpty (span : Span) : Bool := span.stop ≤ span.start

/-- Number of bytes in a span. -/
def length (span : Span) : Nat := span.stop - span.start

/-- Whether the byte at `offset` belongs to the span. -/
def contains (span : Span) (offset : Nat) : Bool := span.start ≤ offset && offset < span.stop

/-- The smallest span that covers both, with the gap between them. -/
def join (left right : Span) : Span := ⟨min left.start right.start, max left.stop right.stop⟩

/-- Spans are ordered by their start, then by their end. -/
def compare (left right : Span) : Ordering :=
  (Ord.compare left.start right.start).then (Ord.compare left.stop right.stop)

/-- The two offsets with two dots between them. -/
def render (span : Span) : String := s!"{span.start}..{span.stop}"

/-- The span with its fields named. -/
def describe (span : Span) : String :=
  s!"Span \x7b start: {span.start}, end: {span.stop} \x7d"

@[simp] theorem length_point (offset : Nat) : (Span.point offset).length = 0 := by
  simp [length, point]

@[simp] theorem isEmpty_point (offset : Nat) : (Span.point offset).isEmpty = true := by
  simp [isEmpty, point]

theorem isEmpty_iff (span : Span) : span.isEmpty = true ↔ span.length = 0 := by
  simp [isEmpty, length, Nat.sub_eq_zero_iff_le]

theorem join_comm (left right : Span) : left.join right = right.join left := by
  simp [join, Nat.min_comm, Nat.max_comm]

end Span

end GrammarLang.Text
