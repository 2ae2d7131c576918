import HostedCheckout.Text.Utf8

/-!
# Places in a text

A place in a text is counted in octets.  A text can be taken apart only where a character
ends; a place inside a character, or past the end, is out of bounds.
-/

namespace HostedCheckout.Text

/-- Take a text apart after so many octets; `none` inside a character, and past the end. -/
def splitAt? : Nat → List Char → Option (List Char × List Char)
  | 0, text => some ([], text)
  | _ + 1, [] => none
  | count + 1, character :: rest =>
      if character.utf8Size ≤ count + 1 then
        (splitAt? (count + 1 - character.utf8Size) rest).map fun parts =>
          (character :: parts.1, parts.2)
      else none

/-- Whether a character ends after so many octets, or the text begins there. -/
def isBoundary (count : Nat) (text : List Char) : Bool :=
  (splitAt? count text).isSome

/-- The octets from a place on; `none` past the end. -/
def dropOctets? (count : Nat) (octets : Bytes) : Option Bytes :=
  if count ≤ octets.length then some (octets.drop count) else none

end HostedCheckout.Text
