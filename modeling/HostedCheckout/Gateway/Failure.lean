import HostedCheckout.Json.Fault
import HostedCheckout.Time.Rfc3339

/-!
# What can go wrong with a gateway

Every failure says what was being done and, where another failure is behind
it, carries that one along.  The wording of all of them is in one place.
-/

namespace HostedCheckout

/-- Why a request was not answered in full. -/
inductive TransportFault where
  /-- The request could not be put together. -/
  | malformed
  /-- The address is well formed, but nothing can be sent there. -/
  | unusableAddress (url : String)
  /-- No answer came. -/
  | unanswered (url : String)
  /-- The answer broke off. -/
  | brokenBody
  deriving DecidableEq, Repr

/-- The wording of a transport fault. -/
def TransportFault.message : TransportFault → String
  | .malformed => "builder error"
  | .unusableAddress url => s!"builder error for url ({url})"
  | .unanswered url => s!"error sending request for url ({url})"
  | .brokenBody => "error decoding response body"

/-- The failures of an exchange with a gateway. -/
inductive GatewayError where
  /-- The gateway did not grant a token. -/
  | tokenRefused (reason : String)
  /-- The gateway could not be asked for a token, or not understood. -/
  | tokenUnavailable (reason : String) (cause : GatewayError)
  /-- A token came with an expiry that is not a timestamp. -/
  | expiry (raw : String) (fault : Rfc3339.Fault)
  /-- A request was not answered. -/
  | transport (fault : TransportFault)
  /-- The gateway answered with an error status. -/
  | status (code : Nat) (body : Json.Value)
  /-- The answer was not the document that was expected. -/
  | document (error : Json.Error)
  /-- No intent was created. -/
  | creation (cause : GatewayError)
  /-- The statuses of an intent and of its latest attempt do not go together. -/
  | statuses (intent attempt : String)
  /-- A notification could not be understood. -/
  | notification (reason : String)

namespace GatewayError

/-- The wording of a failure. -/
def message : GatewayError → String
  | tokenRefused reason => s!"Authentication with the gateway failed: {reason}"
  | tokenUnavailable reason _ => s!"Authentication with the gateway failed: {reason}"
  | expiry raw fault => s!"Unrecognized token expiry {Text.quoted raw}: {fault.message}"
  | transport fault => s!"Transport failure: {fault.message}"
  | status code body => s!"Gateway returned status {code}: {body.render}"
  | document error => s!"Failed to decode gateway response: {error.message}"
  | creation cause => s!"Failed to create payment intent: {cause.message}"
  | statuses intent attempt =>
      let given := s!"intent={Text.quoted intent}, attempt={Text.quoted attempt}"
      s!"Unexpected status combination: {given}"
  | notification reason => s!"Invalid notification: {reason}"

/-- The wordings of a failure and of all that is behind it, outermost first. -/
def chain : GatewayError → List String
  | tokenUnavailable reason cause =>
      (tokenUnavailable reason cause).message :: cause.chain
  | expiry raw fault => [(expiry raw fault).message, fault.message]
  | transport fault => [(transport fault).message, fault.message]
  | document error => [(document error).message, error.message]
  | creation cause => (creation cause).message :: cause.chain
  | other => [other.message]

/-- Whether the gateway rejected the token itself. -/
def isUnauthorized : GatewayError → Bool
  | status code _ => code == 401
  | creation cause => cause.isUnauthorized
  | _ => false

end GatewayError

end HostedCheckout
