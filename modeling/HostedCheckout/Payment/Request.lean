import HostedCheckout.Decimal.Layout
import HostedCheckout.Text.Blank
import HostedCheckout.Text.Quoted
import HostedCheckout.Text.Utf8

/-!
# Payment requests

A request names the order, the product and the price.  It is accepted when the
order is not blank, the price is a finite number above zero, and the currency
is written with three ASCII letters; the first of these that fails is reported.
-/

namespace HostedCheckout

/-- A request to start a payment. -/
structure PayRequest where
  orderId : String
  productName : String
  productDisplayName : String
  productDescription : String
  productImage : String
  price : Binary64
  currency : String
  returnUrl : String
  providerName : String
  deriving DecidableEq

/-- Why a request is not accepted. -/
inductive RequestFault where
  | blankOrder
  | priceNotPositive (price : Binary64)
  | currencyCode (code : String)
  deriving DecidableEq

/-- The wording for a request that is not accepted. -/
def validationMessage (reason : String) : String :=
  "Validation failed: " ++ reason

/-- The wording of a fault. -/
def RequestFault.message : RequestFault → String
  | .blankOrder => validationMessage "order_id must not be empty"
  | .priceNotPositive price =>
      validationMessage s!"price must be positive, got {price.displayText}"
  | .currencyCode code => validationMessage s!"invalid currency code: {Text.quoted code}"

namespace PayRequest

/-- Whether a text is three ASCII letters. -/
def isCurrencyCode (code : String) : Bool :=
  (Bytes.ofString code).length == 3 && code.toList.all Char.isAlpha

/-- Accept a request, or give the first fault. -/
def validate (request : PayRequest) : Except RequestFault Unit :=
  if Text.isBlank request.orderId then .error .blankOrder
  else if !(request.price.isFinite && request.price.isPositive) then
    .error (.priceNotPositive request.price)
  else if !isCurrencyCode request.currency then .error (.currencyCode request.currency)
  else .ok ()

end PayRequest

end HostedCheckout
