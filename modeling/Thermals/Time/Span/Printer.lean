import Thermals.Time.Span
import Thermals.Number.Style

namespace Thermals.Time.Span

open Number

/-- How many decimal places of the unit a nanosecond is, and the sign of the unit. -/
def displayUnit (s : Span) : Nat × String :=
  if 1000000000 ≤ s.nanos then (9, "s")
  else if 1000000 ≤ s.nanos then (6, "ms")
  else if 1000 ≤ s.nanos then (3, "µs")
  else (0, "ns")

/-- A decimal number, without trailing zeros, of the largest unit that the span reaches. -/
def text (s : Span) : String :=
  let (places, sign) := s.displayUnit
  plain.positionalText (Decimal.strip ⟨s.nanos, -places⟩) ++ sign

end Thermals.Time.Span
