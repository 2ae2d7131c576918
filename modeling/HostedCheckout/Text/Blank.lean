/-!
# White space

The characters of the Unicode property White_Space.  A text is blank when it
holds nothing else.
-/

namespace HostedCheckout.Text

/-- Membership in White_Space. -/
def isWhiteSpace (character : Char) : Bool :=
  let point := character.toNat
  (9 ≤ point && point ≤ 13) || point == 0x20 || point == 0x85 || point == 0xA0
    || point == 0x1680 || (0x2000 ≤ point && point ≤ 0x200A)
    || point == 0x2028 || point == 0x2029 || point == 0x202F
    || point == 0x205F || point == 0x3000

/-- A text without a character outside White_Space. -/
def isBlank (text : String) : Bool :=
  text.toList.all isWhiteSpace

end HostedCheckout.Text
