import HostedCheckout.Merchant.Basic

/-!
# Settings of the service

Where the service listens, and with whom it works as a merchant.  A client id,
a key and some time to wait are required.
-/

namespace HostedCheckout

/-- Why there are no settings. -/
inductive SettingsError where
  /-- The layer that every other one lies upon is missing. -/
  | noDefaults
  /-- A layer is not a TOML document. -/
  | unreadable (name : String)
  /-- A setting is not given. -/
  | missing (key : String)
  /-- A setting cannot be converted. -/
  | unconvertible (key : String)
  /-- A setting is not one of the accepted words, or not a section. -/
  | unacceptable (key : String)
  /-- The settings do not make sense. -/
  | rejected (reason : String)
  deriving DecidableEq, Repr

/-- Where the service listens. -/
structure ServerSettings where
  port : Nat
  deriving DecidableEq, Repr

/-- With whom the service works as a merchant. -/
structure GatewaySettings where
  credentials : Credentials
  endpoint : String
  checkoutUrl : String
  timeoutSeconds : Nat
  marginSeconds : Nat
  mode : NotifyMode
  deriving DecidableEq

/-- The settings of the service. -/
structure ServiceSettings where
  server : ServerSettings
  gateway : GatewaySettings
  deriving DecidableEq

namespace ServiceSettings

/-- Refuse settings with which nothing would work. -/
def check (settings : ServiceSettings) : Except SettingsError ServiceSettings :=
  let gateway := settings.gateway
  if gateway.credentials.clientId.value = "" ∨ gateway.credentials.apiKey.value = "" then
    .error (.rejected "airwallex.client_id and airwallex.api_key must be set")
  else if gateway.timeoutSeconds = 0 then
    .error (.rejected "airwallex.timeout_seconds must be greater than zero")
  else .ok settings

/-- Settings in diagnostics. -/
def shown (settings : ServiceSettings) : String :=
  let gateway := settings.gateway
  Text.shownRecord "Config"
    [("server", Text.shownRecord "ServerConfig" [("port", toString settings.server.port)]),
      ("airwallex", Text.shownRecord "AirwallexSettings"
        [("client_id", gateway.credentials.clientId.shown),
          ("api_key", gateway.credentials.apiKey.shown),
          ("api_endpoint", Text.quoted gateway.endpoint),
          ("checkout_url", Text.quoted gateway.checkoutUrl),
          ("timeout_seconds", toString gateway.timeoutSeconds),
          ("token_expiry_skew_seconds", toString gateway.marginSeconds),
          ("notify_mode", gateway.mode.label)])]

/-- The options of the merchant that the settings describe. -/
def merchantOptions (settings : ServiceSettings) : MerchantOptions where
  credentials := settings.gateway.credentials
  endpoint := settings.gateway.endpoint
  checkoutUrl := settings.gateway.checkoutUrl
  timeout := .ofSeconds settings.gateway.timeoutSeconds
  margin := .ofSeconds settings.gateway.marginSeconds
  mode := settings.gateway.mode

end ServiceSettings

end HostedCheckout
