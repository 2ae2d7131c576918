import HostedCheckout.Decimal.Layout
import HostedCheckout.Payment.State

/-!
# What is reported about a payment

A started payment is answered with the checkout page the buyer is sent to.  A
notification or a query is answered with a report of the payment's state.
-/

namespace HostedCheckout

/-- The answer to a started payment. -/
structure PayResponse where
  payUrl : String
  /-- The gateway's identifier, under which the payment is known from now on. -/
  orderId : String
  deriving DecidableEq, Repr

/-- The state of a payment, with what is known of price and product. -/
structure PaymentReport where
  orderId : String
  paymentName : String
  state : PaymentState
  price : Binary64
  currency : String
  productName : String
  productDisplayName : String
  providerName : String
  message : String
  deriving DecidableEq

/-- A report that states nothing but the state. -/
def PaymentReport.bare (paymentName orderId : String) (state : PaymentState) : PaymentReport where
  orderId := orderId
  paymentName := paymentName
  state := state
  price := .zero false
  currency := ""
  productName := ""
  productDisplayName := ""
  providerName := ""
  message := ""

end HostedCheckout
