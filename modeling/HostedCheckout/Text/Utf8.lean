/-!
# UTF-8

Text is stored and sent as octets.  Encoding concatenates the octets of each
character.  Decoding runs a small machine one octet at a time: it either
finishes a character or closes a broken run, which is the longest stretch of
octets that could still have begun a character.  A text decodes strictly when
there is no broken run; the lenient reading puts U+FFFD in place of each run.
-/

namespace HostedCheckout

/-- A sequence of octets. -/
abbrev Bytes := List UInt8

namespace Utf8

/-- The octets of a text, character after character. -/
def encode (characters : List Char) : Bytes :=
  characters.flatMap String.utf8EncodeChar

/-- A character whose first octets have been read: the bits so far, and the
range in which each octet still owed must lie. -/
structure Pending where
  bits : Nat
  owed : List (UInt8 × UInt8)

/-- The range of an ordinary continuation octet. -/
def tail : UInt8 × UInt8 := (0x80, 0xBF)

/-- What the first octet of a longer character promises.  The narrowed ranges
after `E0`, `ED`, `F0` and `F4` exclude overlong forms, surrogates and numbers
past U+10FFFF. -/
def lead? (octet : UInt8) : Option Pending :=
  if 0xC2 ≤ octet ∧ octet ≤ 0xDF then some ⟨octet.toNat % 32, [tail]⟩
  else if octet = 0xE0 then some ⟨0, [(0xA0, 0xBF), tail]⟩
  else if octet = 0xED then some ⟨0xD, [(0x80, 0x9F), tail]⟩
  else if 0xE1 ≤ octet ∧ octet ≤ 0xEF then some ⟨octet.toNat % 16, [tail, tail]⟩
  else if octet = 0xF0 then some ⟨0, [(0x90, 0xBF), tail, tail]⟩
  else if octet = 0xF4 then some ⟨4, [(0x80, 0x8F), tail, tail]⟩
  else if 0xF1 ≤ octet ∧ octet ≤ 0xF3 then some ⟨octet.toNat % 8, [tail, tail, tail]⟩
  else none

/-- Read an octet between characters: what it finishes, and what it leaves
pending.  A broken run is written `none`. -/
def first (octet : UInt8) : List (Option Char) × Option Pending :=
  if octet < 0x80 then ([some (Char.ofNat octet.toNat)], none)
  else match lead? octet with
    | some pending => ([], some pending)
    | none => ([none], none)

/-- Read one octet. -/
def step : Option Pending → UInt8 → List (Option Char) × Option Pending
  | none, octet => first octet
  | some ⟨bits, []⟩, octet =>
      let next := first octet
      (some (Char.ofNat bits) :: next.1, next.2)
  | some ⟨bits, (low, high) :: owed⟩, octet =>
      if low ≤ octet ∧ octet ≤ high then
        let longer := bits * 64 + octet.toNat % 64
        match owed with
        | [] => ([some (Char.ofNat longer)], none)
        | _ :: _ => ([], some ⟨longer, owed⟩)
      else
        let next := first octet
        (none :: next.1, next.2)

/-- Characters and broken runs of an octet sequence, in order. -/
def scan : Option Pending → Bytes → List (Option Char)
  | none, [] => []
  | some _, [] => [none]
  | pending, octet :: rest =>
      let next := step pending octet
      next.1 ++ scan next.2 rest

/-- The text of an octet sequence without a broken run. -/
def decode? (bytes : Bytes) : Option (List Char) :=
  (scan none bytes).mapM id

/-- The text of any octet sequence, with U+FFFD for each broken run. -/
def decodeLossy (bytes : Bytes) : List Char :=
  (scan none bytes).map fun unit => unit.getD (Char.ofNat 0xFFFD)

/-- How many octets stand before the first broken run. -/
def validLength (bytes : Bytes) : Nat :=
  (encode ((scan none bytes).takeWhile Option.isSome).reduceOption).length

end Utf8

namespace Bytes

/-- The octets of a string. -/
def ofString (text : String) : Bytes :=
  Utf8.encode text.toList

/-- The string that an octet sequence spells, if it is UTF-8. -/
def toString? (bytes : Bytes) : Option String :=
  (Utf8.decode? bytes).map String.ofList

/-- The string that an octet sequence spells, broken runs replaced. -/
def toStringLossy (bytes : Bytes) : String :=
  String.ofList (Utf8.decodeLossy bytes)

end Bytes

end HostedCheckout
