import HostedCheckout.Gateway.Account
import HostedCheckout.Payment.State
import HostedCheckout.Text.Shown
import HostedCheckout.Time.Span

/-!
# Merchants

A merchant has an account with a gateway, a checkout page, and a way to
interpret notifications.  The options from which a merchant is set up also say
how long to wait for an answer and how early to give up a token.
-/

namespace HostedCheckout

/-- A merchant. -/
structure Merchant where
  account : Account
  checkoutUrl : String
  mode : NotifyMode
  deriving DecidableEq

/-- The options for a merchant. -/
structure MerchantOptions where
  credentials : Credentials
  endpoint : String
  checkoutUrl : String
  timeout : Span
  margin : Span
  mode : NotifyMode
  deriving DecidableEq

/-- Credentials in diagnostics. -/
def Credentials.shown (credentials : Credentials) : String :=
  Text.shownRecord "Credentials"
    [("client_id", credentials.clientId.shown), ("api_key", credentials.apiKey.shown)]

namespace MerchantOptions

/-- Where the gateway is, unless another place is given. -/
def defaultEndpoint : String := "https://api.airwallex.com"

/-- The checkout page, unless another one is given. -/
def defaultCheckoutUrl : String := "https://checkout.airwallex.com/#/standalone/checkout?"

/-- Options with nothing but credentials given. -/
def ofCredentials (clientId apiKey : String) : MerchantOptions where
  credentials := ⟨⟨clientId⟩, ⟨apiKey⟩⟩
  endpoint := defaultEndpoint
  checkoutUrl := defaultCheckoutUrl
  timeout := .ofSeconds 10
  margin := .ofSeconds 0
  mode := .requery

/-- Options in diagnostics. -/
def shown (options : MerchantOptions) : String :=
  Text.shownRecord "AirwallexOptions"
    [("credentials", options.credentials.shown), ("api_endpoint", Text.quoted options.endpoint),
      ("checkout_url", Text.quoted options.checkoutUrl), ("timeout", options.timeout.text),
      ("token_expiry_skew", options.margin.text), ("notify_mode", options.mode.label)]

/-- The longest margin of a session, in milliseconds. -/
def longestMargin : Nat := 9223372036854775807

/-- The margin of the session that belongs to the options, in nanoseconds; one
that is too long counts as none. -/
def sessionMargin (options : MerchantOptions) : Int :=
  if options.margin.nanoseconds ≤ longestMargin * 1000000 then options.margin.nanoseconds else 0

/-- The session that belongs to the options, before the first call. -/
def session (options : MerchantOptions) (clock : Nat → Int) (exchange : Exchange) :
    Session Exchange :=
  ⟨none, options.sessionMargin, clock, 0, exchange⟩

/-- The merchant set up from options. -/
def merchant (options : MerchantOptions) : Merchant :=
  ⟨⟨options.endpoint, options.credentials⟩, options.checkoutUrl, options.mode⟩

end MerchantOptions

/-- A merchant in diagnostics. -/
def Merchant.shown (merchant : Merchant) : String :=
  Text.shownRecord "AirwallexProvider"
    [("checkout_url", Text.quoted merchant.checkoutUrl), ("notify_mode", merchant.mode.label),
      ("credentials", Secret.mask)]

end HostedCheckout
