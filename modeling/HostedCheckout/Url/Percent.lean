import HostedCheckout.Text.Utf8

/-!
# Percent-encoding

An octet is written `%XY` when the place it stands in reserves it.  Which
octets those are depends on the component of a URL; the sets grow from the
fragment to the user information.
-/

namespace HostedCheckout.Percent

/-- An uppercase hexadecimal digit. -/
def hexDigit (value : Nat) : Char :=
  if value % 16 < 10 then Char.ofNat (48 + value % 16) else Char.ofNat (55 + value % 16)

/-- An octet as a percent sign and two digits. -/
def escape (octet : UInt8) : List Char :=
  ['%', hexDigit (octet.toNat / 16), hexDigit octet.toNat]

/-- The value of a hexadecimal digit. -/
def hexValue? (octet : UInt8) : Option UInt8 :=
  if 0x30 ≤ octet ∧ octet ≤ 0x39 then some (octet - 0x30)
  else if 0x41 ≤ octet ∧ octet ≤ 0x46 then some (octet - 0x37)
  else if 0x61 ≤ octet ∧ octet ≤ 0x66 then some (octet - 0x57)
  else none

/-- The octets that a percent-encoded text stands for.  A percent sign without
two hexadecimal digits after it stands for itself. -/
def decode : Bytes → Bytes
  | 0x25 :: high :: low :: rest =>
      match hexValue? high, hexValue? low with
      | some first, some second => (first * 16 + second) :: decode rest
      | _, _ => 0x25 :: decode (high :: low :: rest)
  | octet :: rest => octet :: decode rest
  | [] => []

/-- Encode the octets of a text that belong to a set. -/
def encode (reserved : UInt8 → Bool) (text : List Char) : List Char :=
  (Utf8.encode text).flatMap fun octet =>
    if reserved octet then escape octet else [Char.ofNat octet.toNat]

/-- Control characters and everything that is not ASCII. -/
def isControl (octet : UInt8) : Bool :=
  octet < 0x20 || 0x7E < octet

/-- Whether an octet is one of the given ASCII characters. -/
def isAmong (characters : String) (octet : UInt8) : Bool :=
  characters.toList.any fun character => character.toNat == octet.toNat

/-- Octets encoded in a fragment. -/
def inFragment (octet : UInt8) : Bool :=
  isControl octet || isAmong " \"<>`" octet

/-- Octets encoded in a query. -/
def inQuery (octet : UInt8) : Bool :=
  isControl octet || isAmong " \"#<>" octet

/-- Octets encoded in the query of a special scheme. -/
def inSpecialQuery (octet : UInt8) : Bool :=
  inQuery octet || isAmong "'" octet

/-- Octets encoded in a path. -/
def inPath (octet : UInt8) : Bool :=
  inQuery octet || isAmong "?`\x7b\x7d" octet

/-- Octets encoded in user information. -/
def inUserInfo (octet : UInt8) : Bool :=
  inPath octet || isAmong "/:;=@[\\]^|" octet

end HostedCheckout.Percent
