import HostedCheckout.Gateway.Failure
import HostedCheckout.Secret

/-!
# Access tokens

A gateway grants a token together with its expiry.  The expiry is a timestamp,
but its offset may be written without a colon, as in `+0000`; the colon is put
in before the timestamp is read.  A token can be used strictly before it
expires.
-/

namespace HostedCheckout

/-- A token that the gateway granted. -/
structure AccessToken where
  secret : Secret
  /-- The expiry as the gateway wrote it. -/
  rawExpiry : String
  expiresAt : Instant
  deriving DecidableEq

namespace AccessToken

/-- How many octets an offset without a colon has. -/
def offsetLength : Nat := 5

/-- Split a text where only so many octets are left, if a character ends there. -/
def splitAtOctets? (count : Nat) : List Char → Option (List Char × List Char)
  | [] => if count = 0 then some ([], []) else none
  | character :: rest =>
      let length := (Utf8.encode (character :: rest)).length
      if length = count then some ([], character :: rest)
      else if length < count then none
      else (splitAtOctets? count rest).map fun split => (character :: split.1, split.2)

/-- The offset with its colon, if it is a sign and four digits. -/
def withColon? : List Char → Option (List Char)
  | [sign, first, second, third, fourth] =>
      if (sign = '+' ∨ sign = '-') ∧ [first, second, third, fourth].all Char.isDigit then
        some [sign, first, second, ':', third, fourth]
      else none
  | _ => none

/-- A timestamp whose offset has a colon.  Texts that do not end in a bare
offset, or have no `T` before it, are left alone. -/
def normalizeOffset (raw : String) : String :=
  match splitAtOctets? offsetLength raw.toList with
  | some (head, offset) =>
      match withColon? offset with
      | some written => if head.contains 'T' then String.ofList (head ++ written) else raw
      | none => raw
  | none => raw

/-- The instant at which a token expires. -/
def parseExpiry (raw : String) : Except GatewayError Instant :=
  match Rfc3339.read (Bytes.ofString (normalizeOffset raw)) with
  | .ok instant => .ok instant
  | .error fault => .error (.expiry raw fault)

/-- A token as it was granted. -/
def ofGrant (token rawExpiry : String) : Except GatewayError AccessToken :=
  (parseExpiry rawExpiry).map fun expiresAt => ⟨⟨token⟩, rawExpiry, expiresAt⟩

/-- Whether the token can be used at an instant. -/
def isUsableAt (token : AccessToken) (now : Instant) : Bool :=
  now.before token.expiresAt

end AccessToken

end HostedCheckout
