/-!
# Sets of characters as ranges

Tables of a character property are kept as lines of text: ranges of hexadecimal
code points, separated by blanks, `low-high` or a single number.
-/

namespace HostedCheckout

/-- A set of code points, as a list of closed ranges. -/
structure RangeSet where
  ranges : List (Nat × Nat)

namespace RangeSet

/-- The value of a hexadecimal digit; any other character counts as zero. -/
def digit (character : Char) : Nat :=
  if '0' ≤ character ∧ character ≤ '9' then character.toNat - 48
  else if 'a' ≤ character ∧ character ≤ 'f' then character.toNat - 87
  else if 'A' ≤ character ∧ character ≤ 'F' then character.toNat - 55
  else 0

/-- The number that hexadecimal digits spell. -/
def hexadecimal (digits : List Char) : Nat :=
  digits.foldl (fun value character => value * 16 + digit character) 0

/-- One entry of a table: a single number stands for the range of it alone. -/
def entry (text : List Char) : Nat × Nat :=
  match text.splitOn '-' with
  | [low, high] => (hexadecimal low, hexadecimal high)
  | _ => (hexadecimal text, hexadecimal text)

/-- The entries of a line, which blanks separate. -/
def words (line : String) : List (List Char) :=
  (line.toList.splitOn ' ').filter (· ≠ [])

/-- Read the lines of a table. -/
def ofLines (lines : List String) : RangeSet :=
  ⟨(lines.flatMap words).map entry⟩

/-- Membership of a character. -/
def contains (set : RangeSet) (character : Char) : Bool :=
  set.ranges.any fun range => range.1 ≤ character.toNat && character.toNat ≤ range.2

end RangeSet

end HostedCheckout
