import HostedCheckout.Time.Calendar

/-!
# Instants

An instant is a second counted from 1970-01-01 UTC and nanoseconds in it.  An
inserted leap second is the second before it with `10 ^ 9` nanoseconds or more,
so instants are ordered by seconds first and nanoseconds second.

A clock shows nanoseconds since 1970.  Instants reach from the first day of
the year -262143 to the last of the year 262142.
-/

namespace HostedCheckout

/-- An instant in time. -/
structure Instant where
  seconds : Int
  nanos : Nat
  deriving DecidableEq, Repr

namespace Instant

/-- Nanoseconds in a second. -/
def perSecond : Nat := 1000000000

/-- The order of instants. -/
def before (first second : Instant) : Bool :=
  decide (first.seconds < second.seconds)
    || (first.seconds == second.seconds && decide (first.nanos < second.nanos))

/-- The first nanosecond that is an instant. -/
def earliest : Int := Date.toDays ⟨-262143, 1, 1⟩ * 86400 * perSecond

/-- The first nanosecond after the last instant. -/
def latest : Int := Date.toDays ⟨262143, 1, 1⟩ * 86400 * perSecond

/-- The instant of a number of nanoseconds since 1970, if there is one. -/
def ofNanoseconds? (nanoseconds : Int) : Option Instant :=
  if earliest ≤ nanoseconds ∧ nanoseconds < latest then
    some ⟨nanoseconds / perSecond, (nanoseconds % perSecond).toNat⟩
  else none

/-- A number in so many decimal digits at least. -/
def padded (width : Nat) (number : Nat) : String :=
  let digits := Nat.toDigits 10 number
  String.ofList (List.replicate (width - digits.length) '0' ++ digits)

/-- A year: four digits, with a sign when it lies outside 0000 to 9999. -/
def yearText (year : Int) : String :=
  if year < 0 then "-" ++ padded 4 year.natAbs
  else if 9999 < year then "+" ++ padded 4 year.natAbs
  else padded 4 year.natAbs

/-- A fraction of a second in the fewest of 0, 3, 6 and 9 digits that are exact. -/
def fractionText (nanos : Nat) : String :=
  if nanos = 0 then ""
  else if nanos % 1000000 = 0 then "." ++ padded 3 (nanos / 1000000)
  else if nanos % 1000 = 0 then "." ++ padded 6 (nanos / 1000)
  else "." ++ padded 9 nanos

/-- The instant in UTC, as RFC 3339 writes it. -/
def text (instant : Instant) : String :=
  let date := Date.ofDays (instant.seconds / 86400)
  let time := (instant.seconds % 86400).toNat
  let leap := instant.nanos / perSecond
  let day := s!"{yearText date.year}-{padded 2 date.month}-{padded 2 date.day}"
  let minutes := s!"{padded 2 (time / 3600)}:{padded 2 (time / 60 % 60)}"
  let seconds := s!"{padded 2 (time % 60 + leap)}{fractionText (instant.nanos % perSecond)}"
  s!"{day}T{minutes}:{seconds}+00:00"

end Instant

end HostedCheckout
