import HostedCheckout.Proofs.Json.RoundTrip
import HostedCheckout.Proofs.Merchant.Blame
import HostedCheckout.Proofs.Merchant.Modes

/-!
# Envelopes

The intent of a notification may be wrapped into an event.  A notification is taken in as the
intent that it is read as, so an event and the intent inside of it lead to the same requests and
to the same report, up to its message, whatever else the event says.
-/

namespace HostedCheckout

open Json

/-- What a document has as `object` within its `data`. -/
def Json.Value.enveloped? (root : Value) : Option Value :=
  (root.member? "data").bind (·.member? "object")

namespace Notification

variable {body : Bytes} {members inner : Members}

/-- An event is read as the intent inside of it. -/
theorem read_of_enveloped (document : Value.read body = .ok (.object members))
    (wraps : (Value.object members).enveloped? = some (.object inner)) :
    Notification.read body = .ok ⟨inner⟩ := by
  have unwrapped : wrapped? (.object members) = some inner := by
    rw [Value.enveloped?] at wraps
    rw [wrapped?, wraps]
  rw [Notification.read, document]
  simp only [unwrapped, Option.getD_some]

/-- An object without another one inside is read as an intent itself. -/
theorem read_of_bare (document : Value.read body = .ok (.object members))
    (bare : ∀ inner, (Value.object members).enveloped? ≠ some (.object inner)) :
    Notification.read body = .ok ⟨members⟩ := by
  have nothing : wrapped? (.object members) = none := by
    unfold wrapped?
    split
    · rename_i inner wraps
      exact absurd wraps (bare inner)
    · rfl
  rw [Notification.read, document]
  simp only [nothing, Option.getD_none]

end Notification

namespace Merchant

variable {merchant : Merchant} {notification : Notification} {orderId : String}
  {first second : Bytes}

/-- What is done with an intent that the gateway shows depends on a notification in the message
of the report at most. -/
theorem alike_of_recording (operation : Operation Exchange GatewayError Intent)
    (orderId text other : String) (session : Session Exchange) :
    let taken := fun message : String =>
      ((fun intent => (intent.report orderId).recording message) <$> operation).mapError
        PaymentError.ofGateway session
    (taken text).2 = (taken other).2 ∧ Alike (taken text).1 (taken other).1 := by
  intro taken
  constructor
  · simp only [taken, Operation.mapError_snd, Operation.map_snd]
  · simp only [taken, Operation.mapError, Operation.map_eq]
    cases (operation session).1 with
    | ok intent => exact .reported ((intent.report orderId).alike_recording text other)
    | error halt => cases halt <;> exact .halted _

/-- Two notifications that are read as the same intent lead to the same session, with the same
requests in it, and are answered alike. -/
theorem alike_of_read (firstRead : Notification.read first = .ok notification)
    (secondRead : Notification.read second = .ok notification) (session : Session Exchange) :
    (merchant.notify first orderId session).2 = (merchant.notify second orderId session).2 ∧
      Alike (merchant.notify first orderId session).1
        (merchant.notify second orderId session).1 := by
  by_cases asks : merchant.mode = .requery ∨ notification.claimsPaid orderId = true
  · rw [notify_of_asking firstRead asks, notify_of_asking secondRead asks]
    cases named : notification.intentId? orderId with
    | none =>
        rw [confirm_of_unnamed named, confirm_of_unnamed named]
        exact ⟨rfl, .halted _⟩
    | some id =>
        rw [confirm_of_named named, confirm_of_named named]
        exact alike_of_recording _ orderId _ _ session
  · have silent : ¬ notification.claimsPaid orderId = true := (not_or.mp asks).2
    rw [notify_of_believing firstRead asks, notify_of_believing secondRead asks]
    cases shown : notification.snapshot orderId with
    | error error =>
        have refused (text : String) : merchant.believe notification orderId text session =
            (.error (.failed error), session) := Operation.conclude_bind_of_error shown session
        simp only [Operation.mapError, refused]
        exact ⟨trivial, .halted _⟩
    | ok intent =>
        simp only [Operation.mapError, believe_of_shown shown silent]
        exact ⟨trivial, .reported ((intent.report orderId).alike_recording _ _)⟩

/-- An event is transparent: in every mode and in every session it leads to what the intent
inside of it leads to, with the same requests and the same failure or report.  Only the message
of the report may tell them apart, and not even that if the report is an error. -/
theorem alike_of_envelope {object outer : Members}
    (bareDocument : Value.read first = .ok (.object object))
    (bare : ∀ inner, (Value.object object).enveloped? ≠ some (.object inner))
    (document : Value.read second = .ok (.object outer))
    (wraps : (Value.object outer).enveloped? = some (.object object)) (merchant : Merchant)
    (orderId : String) (session : Session Exchange) :
    (merchant.notify first orderId session).2 = (merchant.notify second orderId session).2 ∧
      Alike (merchant.notify first orderId session).1
        (merchant.notify second orderId session).1 :=
  alike_of_read (Notification.read_of_bare bareDocument bare)
    (Notification.read_of_enveloped document wraps) session

end Merchant

namespace Sample

/-- The members of an intent that is said to be paid. -/
def claim : List (String × Value) :=
  [("id", .string "int"), ("status", .string "SUCCEEDED"),
    ("latest_payment_attempt", .object [("status", .string "PAID")])]

/-- An event that wraps the intent, and contradicts it. -/
def contradiction : List (String × Value) :=
  [("id", .string "other"), ("status", .string "CANCELLED"), ("amount", .number (.integer 7)),
    ("data", .object [("object", .object claim)])]

end Sample

namespace Merchant

/-- A merchant that believes notifications asks for the intent inside of an event that says the
contrary, and reports it as paid. -/
theorem alike_of_envelope_of_contradiction :
    let bare := Bytes.ofString (Value.object Sample.claim).render
    let event := Bytes.ofString (Value.object Sample.contradiction).render
    ((Sample.merchant .trustPayload).notify event "" Sample.paidSession).1.toOption.any
        (fun report => report.state == .paid && report.message != "") = true ∧
    ((Sample.merchant .trustPayload).notify bare "" Sample.paidSession).2 =
      ((Sample.merchant .trustPayload).notify event "" Sample.paidSession).2 ∧
    Alike ((Sample.merchant .trustPayload).notify bare "" Sample.paidSession).1
      ((Sample.merchant .trustPayload).notify event "" Sample.paidSession).1 := by
  intro bare event
  have bareDocument : Value.read bare = .ok (.object (rereadMembers Sample.claim [])) :=
    Value.read_render (by decide)
  have document : Value.read event = .ok (.object (rereadMembers Sample.contradiction [])) :=
    Value.read_render (by decide)
  have unwrapped : (Value.object (rereadMembers Sample.claim [])).enveloped? = none := by
    have absent : (Value.object Sample.claim).reread.member? "data" = none :=
      Value.member?_reread (by decide) "data"
    rw [Value.reread] at absent
    rw [Value.enveloped?, absent]
    rfl
  have wraps : (Value.object (rereadMembers Sample.contradiction [])).enveloped? =
      some (.object (rereadMembers Sample.claim [])) := by
    have data : (Value.object Sample.contradiction).reread.member? "data" =
        some (Value.object [("object", .object Sample.claim)]).reread :=
      Value.member?_reread (by decide) "data"
    have object : (Value.object [("object", .object Sample.claim)]).reread.member? "object" =
        some (Value.object Sample.claim).reread :=
      Value.member?_reread (by decide) "object"
    rw [Value.reread] at data
    rw [Value.enveloped?, data]
    exact object
  refine ⟨by decide +kernel, ?_⟩
  exact alike_of_envelope bareDocument (fun _ => by simp [unwrapped]) document wraps _ "" _

end Merchant

end HostedCheckout
