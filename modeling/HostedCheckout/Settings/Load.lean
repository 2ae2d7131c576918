import HostedCheckout.Settings.Basic
import HostedCheckout.Settings.Conversion
import HostedCheckout.Settings.Tree
import HostedCheckout.Toml.Reader

/-!
# Loading settings

The layers are the file `default`, the file of the run mode, the file `local`,
and the environment; only the first one is required.  From the environment come
the variables that begin with `PAYBRIDGE__`, in any case; two underscores stand
for a step into a section.  A section may be given as a table or as a list of
its settings in order.
-/

namespace HostedCheckout.Settings

open Toml

/-- A section: what it gives for a name, and what it means when it gives nothing. -/
structure Section where
  find : String → Option Value
  absent : String → SettingsError

/-- A value as a section whose settings have the given names. -/
def section? (key : String) (names : List String) : Value → Except SettingsError Section
  | .table entries => .ok ⟨fun name => entries.lookup name, .missing⟩
  | .array items => .ok ⟨fun name => items[names.idxOf name]?, fun _ => .unacceptable key⟩
  | _ => .error (.unacceptable key)

namespace Section

/-- A setting that is given, converted. -/
def read {α : Type} (group : Section) (name : String) (convert : Value → Except SettingsError α) :
    Except SettingsError (Option α) :=
  match group.find name with
  | none => .ok none
  | some value => (convert value).map some

/-- A setting that has to be given. -/
def need {α : Type} (group : Section) (name : String) : Option α → Except SettingsError α
  | some value => .ok value
  | none => .error (group.absent name)

/-- A setting that is a text. -/
def text (group : Section) (name : String) : Except SettingsError (Option String) :=
  group.read name fun value =>
    match text? value with
    | some text => .ok text
    | none => .error (.unconvertible name)

/-- A setting that is a whole number. -/
def number (group : Section) (limit : Nat) (name : String) : Except SettingsError (Option Nat) :=
  group.read name fun value =>
    match number? limit value with
    | some number => .ok number
    | none => .error (.unconvertible name)

/-- A setting that is a notification mode. -/
def mode (group : Section) (name : String) : Except SettingsError (Option NotifyMode) :=
  group.read name fun value =>
    match mode? value with
    | some mode => .ok mode
    | none => .error (.unacceptable name)

end Section

/-- The settings of the server, from their section. -/
def readServer (value : Value) : Except SettingsError ServerSettings := do
  let group ← section? "server" ["port"] value
  let port ← group.number 65535 "port"
  return ⟨← group.need "port" port⟩

/-- The names of the settings for the gateway, in order. -/
def gatewayNames : List String :=
  ["client_id", "api_key", "api_endpoint", "checkout_url", "timeout_seconds",
    "token_expiry_skew_seconds", "notify_mode"]

/-- The settings for the gateway, from their section. -/
def readGateway (value : Value) : Except SettingsError GatewaySettings := do
  let group ← section? "airwallex" gatewayNames value
  let clientId ← group.text "client_id"
  let apiKey ← group.text "api_key"
  let endpoint ← group.text "api_endpoint"
  let checkoutUrl ← group.text "checkout_url"
  let timeout ← group.number largest "timeout_seconds"
  let margin ← group.number largest "token_expiry_skew_seconds"
  let mode ← group.mode "notify_mode"
  return {
    credentials := ⟨⟨← group.need "client_id" clientId⟩, ⟨← group.need "api_key" apiKey⟩⟩
    endpoint := endpoint.getD MerchantOptions.defaultEndpoint
    checkoutUrl := checkoutUrl.getD MerchantOptions.defaultCheckoutUrl
    timeoutSeconds := timeout.getD 10
    marginSeconds := margin.getD 0
    mode := mode.getD .requery }

/-- The settings of the service, from the tree of all layers. -/
def readService (tree : Entries) : Except SettingsError ServiceSettings := do
  let group : Section := ⟨fun name => tree.lookup name, .missing⟩
  let server ← group.read "server" readServer
  let gateway ← group.read "airwallex" readGateway
  return ⟨← group.need "server" server, ← group.need "airwallex" gateway⟩

/-- How variables of the environment that are settings begin. -/
def variableMark : List Char := "paybridge__".toList

/-- Read two underscores as a point. -/
def pointed : List Char → List Char
  | '_' :: '_' :: rest => '.' :: pointed rest
  | character :: rest => character :: pointed rest
  | [] => []

/-- The lower-case form of a character, if it is in ASCII.  Outside ASCII only the Kelvin sign
has such a form.  Other characters stay as they are: with one of them, in lower case or not, a key
is no path and names no setting. -/
def lower (character : Char) : Char :=
  if character = Char.ofNat 0x212A then 'k' else character.toLower

/-- The key that a variable of the environment sets, if it is a setting. -/
def variableKey? (name : String) : Option String :=
  let lower := name.toList.map lower
  if variableMark.isPrefixOf lower then
    some (String.ofList (pointed (lower.drop variableMark.length)))
  else none

/-- The layer of the environment; all its values are texts. -/
def environmentLayer (environment : List (String × String)) : Layer :=
  environment.filterMap fun entry =>
    (variableKey? entry.1).map fun key => (key, .string entry.2)

/-- The file that a layer is read from.  It may be named with its extension. -/
def file? (files : List (String × String)) (name : String) : Option String :=
  let reversed := name.toList.reverse
  let stem := String.ofList (reversed.drop 5).reverse
  let named := if ".toml".toList.reverse.isPrefixOf reversed then files.lookup stem else none
  named <|> (if name = "" then none else files.lookup name)

/-- The layer of a file, if there is one. -/
def fileLayer? (files : List (String × String)) (name : String) :
    Except SettingsError (Option Layer) :=
  match file? files name with
  | none => .ok none
  | some text =>
      match Toml.read? text with
      | some entries => .ok (some entries)
      | none => .error (.unreadable name)

/-- The run mode of an environment. -/
def runMode (environment : List (String × String)) : String :=
  (environment.lookup "RUN_MODE").getD "development"

/-- Load the settings of the service. -/
def load (files environment : List (String × String)) : Except SettingsError ServiceSettings := do
  let some defaults ← fileLayer? files "default" | throw .noDefaults
  let forMode ← fileLayer? files (runMode environment)
  let forPlace ← fileLayer? files "local"
  let layers := [defaults, forMode.getD [], forPlace.getD [], environmentLayer environment]
  (← readService (stack layers)).check

end HostedCheckout.Settings
