import HostedCheckout.Gateway.Failure
import HostedCheckout.Intent.Basic
import HostedCheckout.Payment.Descriptor
import HostedCheckout.Payment.Report

/-!
# The outcome of an intent

The two statuses of an intent are reduced to one state.  The status of the
intent is looked at first; `SUCCEEDED` comes before the money does, so only
then the attempt decides.  A combination outside the table is an error and
never a success.
-/

namespace HostedCheckout

/-- Statuses of an intent that is still open. -/
def openStatuses : List String :=
  ["PENDING", "REQUIRES_PAYMENT_METHOD", "REQUIRES_CUSTOMER_ACTION", "REQUIRES_CAPTURE"]

/-- Statuses of an attempt that has brought the money. -/
def paidAttempts : List String := ["PAID", "SETTLED"]

/-- Statuses of an attempt that is still under way. -/
def openAttempts : List String :=
  ["CANCELLED", "EXPIRED", "RECEIVED", "AUTHENTICATION_REDIRECTED", "AUTHORIZED",
    "CAPTURE_REQUESTED"]

/-- The state that two statuses stand for. -/
def PaymentState.ofStatuses (intent attempt : String) : Except GatewayError PaymentState :=
  if intent ∈ openStatuses then .ok .created
  else if intent = "CANCELLED" then .ok .canceled
  else if intent = "EXPIRED" then .ok .timeout
  else if intent = "SUCCEEDED" ∧ attempt ∈ paidAttempts then .ok .paid
  else if intent = "SUCCEEDED" ∧ attempt ∈ openAttempts then .ok .created
  else .error (.statuses intent attempt)

/-- The name under which payments of this gateway are reported. -/
def gatewayName : String := "Airwallex"

namespace Intent

/-- The product names in the first descriptor that has three of them. -/
def productNames? (intent : Intent) : Option ProductNames :=
  intent.descriptors.findSome? fun packed => (Descriptor.unpack packed).toOption

/-- The message of a report on an intent. -/
def summary (intent : Intent) : String :=
  s!"intent {intent.id} status={intent.status} attempt={intent.attemptStatus}"

/-- The report on an intent, filed under an order.  When the statuses do not go
together, it says so and nothing else. -/
def report (intent : Intent) (orderId : String) : PaymentReport :=
  match PaymentState.ofStatuses intent.status intent.attemptStatus with
  | .error error => { PaymentReport.bare gatewayName orderId .error with message := error.message }
  | .ok state =>
      let names := intent.productNames?.getD ⟨"", "", ""⟩
      { orderId := orderId
        paymentName := gatewayName
        state := state
        price := intent.amount
        currency := intent.currency
        productName := names.productName
        productDisplayName := names.displayName
        providerName := names.providerName
        message := intent.summary }

end Intent

end HostedCheckout
