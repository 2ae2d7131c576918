import HostedCheckout.Url.Ipv4

/-!
# IPv6 addresses in URLs

An address has eight pieces of four hexadecimal digits, the last two of which
may be written as an IPv4 address.  One `::` stands for at least one piece of
zero.  An address is written with its longest run of zero pieces left out, the
first one of several, unless the run is a single piece.
-/

namespace HostedCheckout.Ipv6

/-- One piece: one to four hexadecimal digits. -/
def piece? (digits : List Char) : Option Nat :=
  if 1 ≤ digits.length ∧ digits.length ≤ 4 then Ipv4.number? 16 digits else none

/-- One number of a dotted address: at most 255, without a leading zero. -/
def dottedNumber? (digits : List Char) : Option Nat :=
  if 1 ≤ digits.length ∧ digits.length ≤ 3 ∧ (digits.length = 1 ∨ digits.head? ≠ some '0') then
    (Ipv4.number? 10 digits).filter (· < 256)
  else none

/-- The two pieces of a dotted address. -/
def dotted? (text : List Char) : Option (List Nat) :=
  match (text.splitOn '.').mapM dottedNumber? with
  | some [first, second, third, fourth] => some [first * 256 + second, third * 256 + fourth]
  | _ => none

/-- The pieces between colons; only the last may be a dotted address, and only
where the address may end. -/
def pieces? (mayEnd : Bool) : List (List Char) → Option (List Nat)
  | [] => some []
  | [last] =>
      if mayEnd ∧ last.contains '.' then dotted? last else (piece? last).map ([·])
  | next :: rest => do
      let first ← piece? next
      let others ← pieces? mayEnd rest
      return first :: others

/-- The pieces of one side of `::`, which may be empty. -/
def side? (mayEnd : Bool) (text : List Char) : Option (List Nat) :=
  if text = [] then some [] else pieces? mayEnd (text.splitOn ':')

/-- Split a text at its first `::`. -/
def splitGap : List Char → Option (List Char × List Char)
  | ':' :: ':' :: rest => some ([], rest)
  | character :: rest => (splitGap rest).map fun split => (character :: split.1, split.2)
  | [] => none

/-- The eight pieces of an address. -/
def parse? (text : List Char) : Option (List Nat) :=
  match splitGap text with
  | none => do
      let pieces ← side? true text
      if pieces.length = 8 then some pieces else none
  | some (before, after) => do
      let left ← side? false before
      let right ← side? true after
      let missing := 8 - (left.length + right.length)
      if left.length + right.length ≤ 7 then some (left ++ List.replicate missing 0 ++ right)
      else none

/-- How many zero pieces begin a list. -/
def zeroRun (pieces : List Nat) : Nat :=
  (pieces.takeWhile (· = 0)).length

/-- The longest run of zero pieces: where it begins and how long it is. -/
def longestRun (pieces : List Nat) : Nat × Nat :=
  (List.range pieces.length).foldl (fun best start =>
    let length := zeroRun (pieces.drop start)
    if best.2 < length then (start, length) else best) (0, 0)

/-- Pieces in hexadecimal, between colons. -/
def joined (pieces : List Nat) : String :=
  String.intercalate ":" (pieces.map fun piece => String.ofList (Nat.toDigits 16 piece))

/-- An address as it is written. -/
def text (pieces : List Nat) : String :=
  let run := longestRun pieces
  if run.2 ≤ 1 then joined pieces
  else s!"{joined (pieces.take run.1)}::{joined (pieces.drop (run.1 + run.2))}"

end HostedCheckout.Ipv6
