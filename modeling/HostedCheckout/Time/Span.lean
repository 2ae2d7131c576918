/-!
# Spans of time

A span is a number of nanoseconds.  It is shown in the largest unit of which it
has at least one, with as many decimals as it needs.
-/

namespace HostedCheckout

/-- A span of time. -/
structure Span where
  nanoseconds : Nat
  deriving DecidableEq, Repr

namespace Span

/-- So many seconds. -/
def ofSeconds (seconds : Nat) : Span := ⟨seconds * 1000000000⟩

/-- So many milliseconds. -/
def ofMilliseconds (milliseconds : Nat) : Span := ⟨milliseconds * 1000000⟩

/-- The decimals of a fraction with so many places, without zeros at the end. -/
def decimals (places fraction : Nat) : List Char :=
  let digits := Nat.toDigits 10 fraction
  let padded := List.replicate (places - digits.length) '0' ++ digits
  (padded.reverse.dropWhile (· == '0')).reverse

/-- A span in a unit of so many places. -/
def inUnit (span : Span) (places : Nat) (unit : String) : String :=
  let whole := toString (span.nanoseconds / Nat.pow 10 places)
  let fraction := span.nanoseconds % Nat.pow 10 places
  if fraction = 0 then whole ++ unit
  else whole ++ "." ++ String.ofList (decimals places fraction) ++ unit

/-- A span with its unit. -/
def text (span : Span) : String :=
  if 1000000000 ≤ span.nanoseconds then span.inUnit 9 "s"
  else if 1000000 ≤ span.nanoseconds then span.inUnit 6 "ms"
  else if 1000 ≤ span.nanoseconds then span.inUnit 3 "µs"
  else span.inUnit 0 "ns"

end Span

end HostedCheckout
