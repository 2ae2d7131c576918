import HostedCheckout.Intent.Basic
import HostedCheckout.Payment.Request
import HostedCheckout.Url.Form
import HostedCheckout.Url.Parser

/-!
# The address of the checkout page

The buyer is sent to the gateway's checkout page with the intent, the amount
and the pages to return to in the query.  The page shows the icon of the shop,
whose place follows from the return page.
-/

namespace HostedCheckout.Checkout

/-- An empty picture, shown when the icon of the shop cannot be found. -/
def placeholderLogo : String :=
  "data:image/gif;base64,R0lGODlhAQABAAD/ACwAAAAAAQABAAACADs="

/-- The icon of the shop that a return page belongs to. -/
def logoUrl (returnUrl : String) : String :=
  match Url.parse? returnUrl with
  | none => placeholderLogo
  | some url =>
      match url.host, url.port with
      | some host, some port => s!"{url.scheme}://{host.text}:{port}/favicon.ico"
      | some host, none => s!"{url.scheme}://{host.text}/favicon.ico"
      | none, _ => placeholderLogo

/-- What the checkout page is told, in order. -/
def parameters (intent : CreatedIntent) (request : PayRequest) : List (String × String) :=
  [("intent_id", intent.id), ("client_secret", intent.clientSecret.expose),
    ("currency", request.currency), ("amount", request.price.displayText),
    ("sessionId", request.orderId), ("successUrl", request.returnUrl),
    ("failUrl", request.returnUrl), ("logoUrl", logoUrl request.returnUrl)]

/-- What stands between a base address and the parameters. -/
def separator (base : List Char) : List Char :=
  if base.getLast? = some '?' ∨ base.getLast? = some '&' then []
  else if '?' ∈ base then ['&']
  else ['?']

/-- The address of the checkout page. -/
def url (base : String) (intent : CreatedIntent) (request : PayRequest) : String :=
  String.ofList
    (base.toList ++ separator base.toList ++ Form.encode (parameters intent request))

end HostedCheckout.Checkout
