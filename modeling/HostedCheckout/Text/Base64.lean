import HostedCheckout.Text.Utf8

/-!
# Base64

Three octets are written as four characters of six bits each.  One or two
octets at the end are filled up with zeros, and `=` marks each character that
holds nothing else.
-/

namespace HostedCheckout.Base64

/-- The character of six bits. -/
def digit (value : Nat) : Char :=
  let bits := value % 64
  if bits < 26 then Char.ofNat (65 + bits)
  else if bits < 52 then Char.ofNat (71 + bits)
  else if bits < 62 then Char.ofNat (bits - 4)
  else if bits = 62 then '+'
  else '/'

/-- Write an octet sequence. -/
def encode : Bytes → List Char
  | first :: second :: third :: rest =>
      let bits := (first.toNat * 256 + second.toNat) * 256 + third.toNat
      digit (bits / 262144) :: digit (bits / 4096) :: digit (bits / 64) :: digit bits
        :: encode rest
  | [first, second] =>
      let bits := (first.toNat * 256 + second.toNat) * 256
      [digit (bits / 262144), digit (bits / 4096), digit (bits / 64), '=']
  | [first] =>
      let bits := first.toNat * 65536
      [digit (bits / 262144), digit (bits / 4096), '=', '=']
  | [] => []

end HostedCheckout.Base64
