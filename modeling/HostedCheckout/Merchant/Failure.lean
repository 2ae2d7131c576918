import HostedCheckout.Gateway.Failure
import HostedCheckout.Payment.Request

/-!
# Failed payments

A payment fails because the request for it was not acceptable, because a
notification could not be understood, or because of the gateway.
-/

namespace HostedCheckout

/-- Why a payment operation failed. -/
inductive PaymentError where
  | request (reason : String)
  | notification (reason : String)
  | gateway (error : GatewayError)

namespace PaymentError

/-- The wording of a failure. -/
def message : PaymentError → String
  | request reason => s!"Invalid payment request: {reason}"
  | notification reason => s!"Invalid notification: {reason}"
  | gateway error => s!"Payment provider failure: {error.message}"

/-- A failed exchange as a failed payment.  What is wrong with a notification
is not the gateway's fault. -/
def ofGateway : GatewayError → PaymentError
  | .notification reason => notification reason
  | other => gateway other

/-- A request that is not acceptable as a failed payment. -/
def ofRequest (fault : RequestFault) : PaymentError :=
  request fault.message

/-- What the gateway expects in answer to a notification. -/
def acknowledgement : Option PaymentError → String
  | none => "success"
  | some _ => "fail"

end PaymentError

end HostedCheckout
