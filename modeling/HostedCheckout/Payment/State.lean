/-!
# Payment states and notification modes

Every status a gateway knows is reduced to five states.  A notification is
either only a reason to ask the gateway, or is believed as far as it does not
claim that money was paid.
-/

namespace HostedCheckout

/-- The state of a payment. -/
inductive PaymentState where
  | created
  | paid
  | canceled
  | timeout
  | error
  deriving DecidableEq, Repr

namespace PaymentState

/-- The names of the states, in order. -/
def names : List (String × PaymentState) :=
  [("Created", .created), ("Paid", .paid), ("Canceled", .canceled), ("Timeout", .timeout),
    ("Error", .error)]

/-- The name of a state. -/
def name : PaymentState → String
  | .created => "Created"
  | .paid => "Paid"
  | .canceled => "Canceled"
  | .timeout => "Timeout"
  | .error => "Error"

/-- A state is found under its name. -/
theorem lookup_name (state : PaymentState) : names.lookup state.name = some state := by
  cases state <;> decide

end PaymentState

/-- How a notification is interpreted. -/
inductive NotifyMode where
  /-- The gateway is asked for the state of the payment. -/
  | requery
  /-- The notification is believed, unless it claims that the payment is paid. -/
  | trustPayload
  deriving DecidableEq, Repr

namespace NotifyMode

/-- The names of the modes, in order. -/
def names : List (String × NotifyMode) :=
  [("requery", .requery), ("trust_payload", .trustPayload)]

/-- The name of a mode in documents and settings. -/
def name : NotifyMode → String
  | .requery => "requery"
  | .trustPayload => "trust_payload"

/-- The name of a mode in diagnostics. -/
def label : NotifyMode → String
  | .requery => "Requery"
  | .trustPayload => "TrustPayload"

/-- A mode is found under its name. -/
theorem lookup_name (mode : NotifyMode) : names.lookup mode.name = some mode := by
  cases mode <;> decide

end NotifyMode

end HostedCheckout
