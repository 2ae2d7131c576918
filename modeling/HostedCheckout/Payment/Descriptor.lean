/-!
# Product descriptors

A gateway echoes one opaque text back with every notification.  The three names
of a product travel in it, separated by a private-use character that does not
occur in ordinary text and is dropped from the names themselves.
-/

namespace HostedCheckout

/-- The names under which a product is sold. -/
structure ProductNames where
  productName : String
  displayName : String
  providerName : String
  deriving DecidableEq, Repr

namespace Descriptor

/-- The separator of the names, U+E000. -/
def delimiter : Char := Char.ofNat 0xE000

/-- How many names a descriptor holds. -/
def fieldCount : Nat := 3

/-- A text without the delimiter. -/
def strip (text : String) : String :=
  String.ofList (text.toList.filter (· ≠ delimiter))

/-- The names, stripped and joined by the delimiter. -/
def pack (names : ProductNames) : String :=
  String.ofList
    ((strip names.productName).toList ++ delimiter
      :: (strip names.displayName).toList ++ delimiter
      :: (strip names.providerName).toList)

/-- The parts of a text between delimiters; there is one more than there are
delimiters. -/
def parts (packed : String) : List (List Char) :=
  packed.toList.splitOn delimiter

/-- The names in a text with exactly two delimiters; otherwise the number of
its parts. -/
def unpack (packed : String) : Except Nat ProductNames :=
  match parts packed with
  | [product, display, provider] =>
      .ok ⟨String.ofList product, String.ofList display, String.ofList provider⟩
  | others => .error others.length

/-- The wording for a text with a wrong number of parts. -/
def malformedMessage (found : Nat) : String :=
  s!"Malformed descriptor: expected {fieldCount} fields, found {found}"

end Descriptor

end HostedCheckout
