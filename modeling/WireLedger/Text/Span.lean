/-!
# Stretches of text

A span says where a stretch of bytes starts and where it stops.
-/
namespace WireLedger

/-- Bytes `start` to `stop` of a source (`Span`). -/
structure Span where
  start : Nat
  stop : Nat
deriving DecidableEq, Repr

/-- The number of bytes; a reversed span has none (`span_to_source_span`). -/
def Span.length (span : Span) : Nat := span.stop - span.start

/-- The span from the start of one to the stop of another. -/
def Span.through (first last : Span) : Span := ⟨first.start, last.stop⟩

end WireLedger
