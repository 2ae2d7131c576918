import HostedCheckout.Text.RangeSet
import HostedCheckout.Url.Idna.MappingTable

/-!
# The mapping of domain names

Before a domain name is looked at, every character is replaced as the table
says; uppercase letters become lowercase and look-alikes become what they look
like.
-/

namespace HostedCheckout.Idna

/-- One rule: the code points it applies to, the distance between them, and
what stands in their place.  A rule for several code points shifts its target
along with them. -/
structure Replacement where
  low : Nat
  high : Nat
  stride : Nat
  target : List Nat

namespace Replacement

/-- Whether the rule applies to a code point. -/
def covers (rule : Replacement) (point : Nat) : Bool :=
  rule.low ≤ point && point ≤ rule.high && (point - rule.low) % rule.stride == 0

/-- What the rule puts in place of a code point that it covers. -/
def apply (rule : Replacement) (point : Nat) : List Char :=
  rule.target.map fun goal => Char.ofNat (goal + (point - rule.low))

/-- Read one entry of the table. -/
def entry (text : List Char) : Replacement :=
  let source := text.takeWhile (· ≠ '>')
  let target := ((text.dropWhile (· ≠ '>')).drop 1).splitOn '+'
  let range := RangeSet.entry (source.map fun mark => if mark = '~' then '-' else mark)
  ⟨range.1, range.2, if source.contains '~' then 2 else 1, target.map RangeSet.hexadecimal⟩

end Replacement

/-- All rules. -/
def replacements : List Replacement :=
  (mappingLines.flatMap RangeSet.words).map Replacement.entry

/-- What stands in place of a character, if it is replaced. -/
def replacement? (character : Char) : Option (List Char) :=
  (replacements.find? (·.covers character.toNat)).map (·.apply character.toNat)

end HostedCheckout.Idna
