import HostedCheckout.Url.Percent

/-!
# Form encoding

A list of names and values is written `name=value&name=value`.  Letters,
digits and `*-._` stand for themselves, a blank is written `+`, and every other
octet is percent-encoded.  Reading splits at `&` and at the first `=`, leaves
out empty parts, and reads broken UTF-8 leniently.
-/

namespace HostedCheckout.Form

/-- Octets that stand for themselves. -/
def isLiteral (octet : UInt8) : Bool :=
  (0x30 ≤ octet && octet ≤ 0x39) || (0x41 ≤ octet && octet ≤ 0x5A)
    || (0x61 ≤ octet && octet ≤ 0x7A) || octet == 0x2A || octet == 0x2D
    || octet == 0x2E || octet == 0x5F

/-- How one octet is written. -/
def encodeOctet (octet : UInt8) : List Char :=
  if isLiteral octet then [Char.ofNat octet.toNat]
  else if octet = 0x20 then ['+']
  else Percent.escape octet

/-- A name or a value as it is written. -/
def encodeText (text : String) : List Char :=
  (Bytes.ofString text).flatMap encodeOctet

/-- A name and its value. -/
def encodePair (pair : String × String) : List Char :=
  encodeText pair.1 ++ '=' :: encodeText pair.2

/-- A list of names and values. -/
def encode : List (String × String) → List Char
  | [] => []
  | [pair] => encodePair pair
  | pair :: next :: rest => encodePair pair ++ '&' :: encode (next :: rest)

/-- The text that a written name or value stands for. -/
def decodeText (written : List Char) : String :=
  (Percent.decode ((Utf8.encode written).map fun octet =>
    if octet = 0x2B then 0x20 else octet)).toStringLossy

/-- The name and the value of one part. -/
def decodePair (part : List Char) : String × String :=
  (decodeText (part.takeWhile (· ≠ '=')), decodeText ((part.dropWhile (· ≠ '=')).drop 1))

/-- The names and values that a text stands for. -/
def decode (written : List Char) : List (String × String) :=
  ((written.splitOn '&').filter (· ≠ [])).map decodePair

end HostedCheckout.Form
