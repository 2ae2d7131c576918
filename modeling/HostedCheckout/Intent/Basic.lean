import HostedCheckout.Json.Value
import HostedCheckout.Secret

/-!
# Payment intents

An intent is the gateway's record of a payment.  It carries a status of its
own and the status of the latest attempt to pay, and it echoes the product
descriptor in up to two places.
-/

namespace HostedCheckout

/-- A new intent: all that the checkout page needs. -/
structure CreatedIntent where
  id : String
  clientSecret : Secret
  deriving DecidableEq

/-- An intent as it was at some moment. -/
structure Intent where
  id : String
  clientSecret : Secret
  status : String
  /-- Empty until somebody tries to pay. -/
  attemptStatus : String
  amount : Binary64
  currency : String
  requestId : String
  merchantOrderId : String
  descriptor : Option String
  metadata : Json.Members

namespace Intent

/-- The member of the metadata that repeats the descriptor. -/
def descriptorKey : String := "descriptor"

/-- The descriptors of an intent that are not empty, its own before the one in
the metadata: the gateway may rewrite the former. -/
def descriptors (intent : Intent) : List String :=
  let repeated := (intent.metadata.lookup descriptorKey).bind Json.Value.string?
  (intent.descriptor.toList ++ repeated.toList).filter (· ≠ "")

end Intent

end HostedCheckout
