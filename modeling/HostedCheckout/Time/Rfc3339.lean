import HostedCheckout.Time.Instant
import HostedCheckout.Text.Utf8

/-!
# Reading RFC 3339 timestamps

A timestamp is `YYYY-MM-DD`, a separator, `HH:MM:SS` with an optional fraction,
and an offset from UTC.  It is read octet by octet from the left, and the first
fault is reported.  The date is judged as soon as it is complete, the time of
day after its fraction, and the size of the offset only when nothing follows
it.  The second 60 stands for a leap second at any minute.
-/

namespace HostedCheckout.Rfc3339

/-- Why a timestamp is refused. -/
inductive Fault where
  | tooShort
  | invalid
  | outOfRange
  | trailing
  deriving DecidableEq, Repr

/-- The wording of a fault. -/
def Fault.message : Fault → String
  | .tooShort => "premature end of input"
  | .invalid => "input contains invalid characters"
  | .outOfRange => "input is out of range"
  | .trailing => "trailing input"

/-- A reader of octets. -/
abbrev Reader (α : Type) := StateT Bytes (Except Fault) α

/-- Refuse the timestamp. -/
def refuse {α : Type} (fault : Fault) : Reader α :=
  fun _ => .error fault

/-- The value of a decimal digit. -/
def digitValue? (octet : UInt8) : Option Nat :=
  if 0x30 ≤ octet ∧ octet ≤ 0x39 then some (octet.toNat - 0x30) else none

/-- Take one octet. -/
def octet : Reader UInt8 := fun bytes =>
  match bytes with
  | [] => .error .tooShort
  | next :: rest => .ok (next, rest)

/-- Take one digit. -/
def digit : Reader Nat := do
  match digitValue? (← octet) with
  | some value => pure value
  | none => refuse .invalid

/-- Take a number of so many digits. -/
def number : Nat → Reader Nat
  | 0 => pure 0
  | count + 1 => do
      let high ← digit
      return high * Nat.pow 10 count + (← number count)

/-- Take one of the given octets. -/
def oneOf (accepted : Bytes) : Reader Unit := do
  if accepted.contains (← octet) then pure () else refuse .invalid

/-- Take two digits; without two octets the text is too short, whatever they are. -/
def pair : Reader Nat := do
  if (← get).length < 2 then refuse .tooShort else number 2

/-- Take a date. -/
def date : Reader Date := do
  let year ← number 4
  oneOf [0x2D]
  let month ← number 2
  oneOf [0x2D]
  let day ← number 2
  let date : Date := ⟨year, month, day⟩
  if date.exists? then pure date else refuse .outOfRange

/-- The first nine digits of a fraction, as nanoseconds. -/
def nanoseconds (digits : List Nat) : Nat :=
  ((digits ++ List.replicate 9 0).take 9).foldl (fun value digit => value * 10 + digit) 0

/-- Take a fraction of a second if there is one. -/
def fraction : Reader Nat := do
  match (← get).head? with
  | some 0x2E => do
      let _ ← octet
      match ← get with
      | [] => refuse .tooShort
      | rest => do
          let digits := (rest.map digitValue?).takeWhile Option.isSome
          if digits.isEmpty then refuse .invalid
          else do
            set (rest.drop digits.length)
            return nanoseconds (digits.map (·.getD 0))
  | _ => return 0

/-- Take a time of day: seconds since midnight, and nanoseconds. -/
def timeOfDay : Reader (Nat × Nat) := do
  let hour ← number 2
  oneOf [0x3A]
  let minute ← number 2
  oneOf [0x3A]
  let second ← number 2
  let nanos ← fraction
  let leap := second = 60
  let second := if leap then 59 else second
  let nanos := if leap then nanos + Instant.perSecond else nanos
  if hour < 24 ∧ minute < 60 ∧ second < 60 then
    return (hour * 3600 + minute * 60 + second, nanos)
  else refuse .outOfRange

/-- Take the sign of an offset, negative or not.  The minus sign U+2212 is one. -/
def sign : Reader Bool := do
  match ← get with
  | [] => refuse .tooShort
  | 0x2B :: rest => do
      set rest
      return false
  | 0x2D :: rest => do
      set rest
      return true
  | 0xE2 :: 0x88 :: 0x92 :: rest => do
      set rest
      return true
  | _ => refuse .invalid

/-- Take an offset from UTC, in minutes. -/
def offset : Reader Int := do
  match (← get).head? with
  | some 0x5A | some 0x7A => do
      let _ ← octet
      return 0
  | _ => do
      let negative ← sign
      let hours ← pair
      oneOf [0x3A]
      let minutes ← pair
      if 60 ≤ minutes then refuse .outOfRange
      else
        let total : Int := hours * 60 + minutes
        return if negative then -total else total

/-- Take a whole timestamp. -/
def timestamp : Reader Instant := do
  if (← get).length < 19 then refuse .tooShort
  else do
    let date ← date
    oneOf [0x54, 0x74, 0x20]
    let (seconds, nanos) ← timeOfDay
    let offset ← offset
    if (← get) ≠ [] then refuse .trailing
    else if 24 * 60 ≤ offset.natAbs then refuse .outOfRange
    else return ⟨date.toDays * 86400 + seconds - offset * 60, nanos⟩

/-- Read a timestamp. -/
def read (text : Bytes) : Except Fault Instant :=
  (timestamp.run text).map Prod.fst

end HostedCheckout.Rfc3339
