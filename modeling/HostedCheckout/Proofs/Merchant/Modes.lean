import HostedCheckout.Proofs.Merchant.Performance

/-!
# The two modes

A merchant that asks the gateway takes nothing from a notification but the intent
to ask for, and nothing at all once the order is known: any two notifications that
can be read lead to the same requests and to the same report, up to its message.
A merchant that believes a notification reports what it would have reported if the
gateway had shown it the same intent; and it asks, too, when the payment is paid.
-/

namespace HostedCheckout

open Json

/-- Two reports that differ in their messages at most, and not even in those if they
report an error. -/
structure PaymentReport.Alike (first second : PaymentReport) : Prop where
  eq_but_message : first = { second with message := first.message }
  message_eq : first.state = .error → first.message = second.message

/-- Two ways to end that differ in the message of a report at most. -/
inductive Alike : Except (Halt PaymentError) PaymentReport →
    Except (Halt PaymentError) PaymentReport → Prop
  | halted (halt : Halt PaymentError) : Alike (.error halt) (.error halt)
  | reported {first second : PaymentReport} : first.Alike second → Alike (.ok first) (.ok second)

/-- Notifications that are recorded in one report make two that are alike. -/
theorem PaymentReport.alike_recording (report : PaymentReport) (first second : String) :
    (report.recording first).Alike (report.recording second) := by
  unfold recording
  split
  · exact ⟨rfl, fun _ => rfl⟩
  · rename_i noError
    exact ⟨rfl, fun error => absurd error noError⟩

theorem exists_of_any_toOption {ε α : Type} {result : Except ε α} {holds : α → Bool}
    (checked : result.toOption.any holds = true) :
    ∃ value, result = .ok value ∧ holds value = true := by
  cases result with
  | error => exact absurd checked Bool.false_ne_true
  | ok value => exact ⟨value, rfl, checked⟩

namespace Merchant

variable {merchant : Merchant} {orderId : String}

/-! ## Nothing but a reason to ask -/

/-- A merchant that asks takes in a notification as a query for the order. -/
theorem notify_of_requery (mode : merchant.mode = .requery) (given : orderId ≠ "") {body : Bytes}
    {members : Members} (object : Value.read body = .ok (.object members))
    (session : Session Exchange) :
    merchant.notify body orderId session =
      ((fun intent => (intent.report orderId).recording body.toStringLossy) <$>
        merchant.account.meet (.inquiry orderId)).mapError .ofGateway session := by
  have read : Notification.read body =
      .ok ⟨(Notification.wrapped? (.object members)).getD members⟩ := by
    unfold Notification.read
    rw [object]
  have named (notification : Notification) : notification.intentId? orderId = some orderId :=
    if_pos given
  rw [notify_of_asking read (.inl mode), confirm_of_named (named _)]

/-- For a merchant that asks, nothing depends on the notification but the message of
the report: whatever the session, two notifications to an order leave the same session
behind, with the same requests in it, and are answered alike. -/
theorem alike_of_requery (mode : merchant.mode = .requery) (given : orderId ≠ "")
    {first second : Bytes} {members others : Members}
    (firstObject : Value.read first = .ok (.object members))
    (secondObject : Value.read second = .ok (.object others)) (session : Session Exchange) :
    (merchant.notify first orderId session).2 = (merchant.notify second orderId session).2 ∧
      Alike (merchant.notify first orderId session).1
        (merchant.notify second orderId session).1 := by
  rw [notify_of_requery mode given firstObject, notify_of_requery mode given secondObject]
  constructor
  · simp only [Operation.mapError_snd, Operation.map_snd]
  · simp only [Operation.mapError, Operation.map_eq]
    cases (merchant.account.meet (.inquiry orderId) session).1 with
    | ok intent => exact .reported ((intent.report orderId).alike_recording _ _)
    | error halt => cases halt <;> exact .halted _

end Merchant

namespace Sample

/-- An event that tells of another intent. -/
def cancellation : Bytes :=
  Bytes.ofString
    ("\x7b\"data\":\x7b\"object\":\x7b\"id\":\"other\",\"status\":\"CANCELLED\",\"amount\":7,"
      ++ "\"currency\":\"USD\",\"descriptor\":\"a|b|c\"\x7d\x7d\x7d")

/-- A session in which the gateway grants a token, and shows an intent that is paid. -/
def paidSession : Session Exchange :=
  session [grant "t", .answered 200 paidIntent]

/-- Whether a document is an object. -/
def isObject : Value → Bool
  | .object _ => true
  | _ => false

theorem exists_members {body : Bytes} (checked : (Value.read body).toOption.any isObject = true) :
    ∃ members, Value.read body = .ok (.object members) := by
  obtain ⟨value, known, object⟩ := exists_of_any_toOption checked
  cases value with
  | object members => exact ⟨members, known⟩
  | _ => exact absurd object Bool.false_ne_true

end Sample

namespace Merchant

/-- An event that contradicts everything the gateway says is taken in like the intent
itself: the payment is paid. -/
theorem alike_of_contradiction :
    (∃ report, ((Sample.merchant .requery).notify Sample.cancellation "int"
        Sample.paidSession).1 = .ok report ∧ report.state = .paid) ∧
    ((Sample.merchant .requery).notify Sample.paidIntent "int" Sample.paidSession).2 =
      ((Sample.merchant .requery).notify Sample.cancellation "int" Sample.paidSession).2 ∧
    Alike ((Sample.merchant .requery).notify Sample.paidIntent "int" Sample.paidSession).1
      ((Sample.merchant .requery).notify Sample.cancellation "int" Sample.paidSession).1 := by
  have paid : ((Sample.merchant .requery).notify Sample.cancellation "int"
      Sample.paidSession).1.toOption.any (·.state == .paid) = true := by
    decide +kernel
  obtain ⟨report, reported, isPaid⟩ := exists_of_any_toOption paid
  obtain ⟨members, first⟩ : ∃ members, Value.read Sample.paidIntent = .ok (.object members) :=
    Sample.exists_members (by decide +kernel)
  obtain ⟨others, second⟩ : ∃ others, Value.read Sample.cancellation = .ok (.object others) :=
    Sample.exists_members (by decide +kernel)
  exact ⟨⟨report, reported, eq_of_beq isPaid⟩,
    alike_of_requery rfl (by decide) first second Sample.paidSession⟩

/-! ## Believing and asking -/

/-- The same merchant in another mode. -/
def inMode (merchant : Merchant) (mode : NotifyMode) : Merchant := { merchant with mode }

end Merchant

theorem PaymentState.ofStatuses_ne_error (intent attempt : String) :
    ofStatuses intent attempt ≠ .ok .error := by
  unfold ofStatuses
  repeat' split
  all_goals simp

theorem Intent.state_report_eq_paid_iff {intent : Intent} {orderId : String} :
    (intent.report orderId).state = .paid ↔
      PaymentState.ofStatuses intent.status intent.attemptStatus = .ok .paid := by
  unfold report
  cases PaymentState.ofStatuses intent.status intent.attemptStatus with
  | error error => simp [PaymentReport.bare]
  | ok state => simp

/-- Of the identifier of an intent only the message of a report tells. -/
theorem Intent.recording_report_of_id (intent : Intent) (id orderId body : String) :
    ({ intent with id }.report orderId).recording body =
      (intent.report orderId).recording body := by
  unfold report
  cases known : PaymentState.ofStatuses intent.status intent.attemptStatus with
  | error error => rfl
  | ok state =>
      have noError : state ≠ .error := by
        rintro rfl
        exact PaymentState.ofStatuses_ne_error _ _ known
      simp only [PaymentReport.recording, noError, if_false]
      rfl

section Shown

variable {merchant : Merchant} {notification : Notification} {intent : Intent} {orderId : String}
  (stated : (notification.textMember? "status").isSome = true)
  (decoded : Intent.kind.ofValue (.object notification.intent) = .ok intent)
include stated decoded

theorem Notification.snapshot_eq :
    notification.snapshot orderId =
      .ok { intent with id := if intent.id = "" then orderId else intent.id } := by
  obtain ⟨status, given⟩ := Option.isSome_iff_exists.mp stated
  unfold snapshot
  simp only [given, decoded]
  split <;> rfl

/-- A notification claims that the payment is paid if its statuses say so. -/
theorem Notification.claimsPaid_iff :
    notification.claimsPaid orderId = true ↔
      PaymentState.ofStatuses intent.status intent.attemptStatus = .ok .paid := by
  unfold claimsPaid
  rw [snapshot_eq stated decoded, beq_iff_eq, Intent.state_report_eq_paid_iff]

/-- A notification that claims nothing of the kind is believed in every respect. -/
theorem Merchant.believe_of_unpaid
    (unpaid : PaymentState.ofStatuses intent.status intent.attemptStatus ≠ .ok .paid)
    (body : String) (session : Session Exchange) :
    merchant.believe notification orderId body session =
      (.ok ((intent.report orderId).recording body), session) := by
  have snapshot : notification.snapshot orderId = _ := Notification.snapshot_eq stated decoded
  have noClaim : ((intent.report orderId).recording body).state ≠ .paid := by
    rwa [PaymentReport.state_recording, ne_eq, Intent.state_report_eq_paid_iff]
  unfold Merchant.believe
  rw [Operation.conclude_bind_of_ok snapshot]
  simp only [Intent.recording_report_of_id, noClaim, if_false]
  rfl

end Shown

theorem Notification.exists_intentId? {notification : Notification} {orderId : String}
    (named : orderId ≠ "" ∨ (notification.textMember? "id").any (· ≠ "") = true) :
    ∃ id, notification.intentId? orderId = some id := by
  unfold intentId?
  by_cases given : orderId = ""
  · rw [if_neg (not_not.mpr given)]
    cases inside : notification.textMember? "id" with
    | none => simp [given, inside] at named
    | some id => exact ⟨id, by simpa [given, inside] using named⟩
  · exact ⟨orderId, if_pos given⟩

namespace Merchant

variable {merchant : Merchant} {notification : Notification} {intent : Intent} {orderId : String}
  {body : Bytes}

/-- Both modes agree on a notification that shows an intent.  If the intent is paid, they
do the same in every session.  Otherwise a merchant that believes the notification reports
what one that asks reports whenever the gateway answers it with the intent that the
notification shows. -/
theorem modes_agree (read : Notification.read body = .ok notification)
    (stated : (notification.textMember? "status").isSome = true)
    (decoded : Intent.kind.ofValue (.object notification.intent) = .ok intent)
    (named : orderId ≠ "" ∨ (notification.textMember? "id").any (· ≠ "") = true) :
    (PaymentState.ofStatuses intent.status intent.attemptStatus = .ok .paid →
      ∀ session, (merchant.inMode .trustPayload).notify body orderId session =
        (merchant.inMode .requery).notify body orderId session) ∧
    (PaymentState.ofStatuses intent.status intent.attemptStatus ≠ .ok .paid →
      ∀ session turns turn token,
        ((merchant.inMode .requery).notify body orderId session).2.source.turns =
          session.source.turns ++ turns →
        turn ∈ turns → turn.request.carries token = true →
        turn.reply.value? = some (.object notification.intent) →
        ∃ report, ((merchant.inMode .requery).notify body orderId session).1 = .ok report ∧
          ∀ other, (merchant.inMode .trustPayload).notify body orderId other =
            (.ok report, other)) := by
  obtain ⟨id, names⟩ := Notification.exists_intentId? named
  constructor
  · intro paid session
    have claims : notification.claimsPaid orderId = true :=
      (Notification.claimsPaid_iff stated decoded).mpr paid
    rw [notify_of_asking read (.inr claims), notify_of_asking read (.inr claims)]
    rfl
  · intro unpaid session turns turn token taken among carried shown
    have claimless : ¬ notification.claimsPaid orderId = true :=
      (Notification.claimsPaid_iff stated decoded).not.mpr unpaid
    rw [notify_of_asking read (.inl rfl), confirm_of_named names] at taken ⊢
    rw [Operation.mapError_snd, Operation.map_snd] at taken
    have met : (merchant.account.meet (.inquiry id) session).1 = .ok intent :=
      Account.meet_of_answered taken among carried shown decoded
    refine ⟨(intent.report orderId).recording body.toStringLossy, ?_, fun other => ?_⟩
    · rw [Operation.mapError_fst_eq_ok_iff, Operation.map_fst_eq_ok_iff]
      exact ⟨intent, met, rfl⟩
    · rw [notify_of_believing read (by simp [inMode, claimless])]
      exact Operation.mapError_congr (believe_of_unpaid stated decoded unpaid _ other) _

end Merchant

namespace Sample

/-- An intent that is canceled, as a document. -/
def canceledIntent : Bytes :=
  Bytes.ofString "\x7b\"id\":\"int\",\"status\":\"CANCELLED\"\x7d"

/-- Whether a document is an intent, and not wrapped, that is named and has certain statuses. -/
def isIntent (status attempt : String) : Value → Bool
  | .object members =>
      (Notification.wrapped? (.object members)).isNone &&
        ((Notification.mk members).textMember? "status").isSome &&
        ((Notification.mk members).textMember? "id").any (· ≠ "") &&
        (Intent.kind.ofValue (.object members)).toOption.any fun intent =>
          intent.status == status && intent.attemptStatus == attempt
  | _ => false

/-- Such a document is read alike from a notification and from a reply. -/
theorem exists_intent {body : Bytes} {status attempt : String}
    (checked : (Value.read body).toOption.any (isIntent status attempt) = true) :
    ∃ notification intent, Notification.read body = .ok notification ∧
      (Reply.answered 200 body).value? = some (.object notification.intent) ∧
      (notification.textMember? "status").isSome = true ∧
      (notification.textMember? "id").any (· ≠ "") = true ∧
      Intent.kind.ofValue (.object notification.intent) = .ok intent ∧
      intent.status = status ∧ intent.attemptStatus = attempt := by
  obtain ⟨value, known, isIntent⟩ := exists_of_any_toOption checked
  cases value with
  | object members =>
      simp only [Sample.isIntent, Bool.and_eq_true] at isIntent
      obtain ⟨⟨⟨bare, stated⟩, named⟩, decodes⟩ := isIntent
      obtain ⟨intent, decoded, statuses⟩ := exists_of_any_toOption decodes
      simp only [Bool.and_eq_true, beq_iff_eq] at statuses
      refine ⟨⟨members⟩, intent, ?_, ?_, stated, named, decoded, statuses⟩
      · simp [Notification.read, known, Option.isNone_iff_eq_none.mp bare]
      · simp [Reply.value?, Reply.whole?, Reply.hasNoBody, guard, known, Except.toOption]
  | _ => exact absurd isIntent Bool.false_ne_true

/-- A session in which the gateway grants a token, and shows the intent that is canceled. -/
def canceledSession : Session Exchange :=
  session [grant "t", .answered 200 canceledIntent]

end Sample

namespace Merchant

/-- Both merchants ask for an intent that is said to be paid.  A merchant that believes
what it is told of a canceled one reports what one reports that asks. -/
theorem modes_agree_of_samples :
    (∀ session,
      ((Sample.merchant .requery).inMode .trustPayload).notify Sample.paidIntent "" session =
        ((Sample.merchant .requery).inMode .requery).notify Sample.paidIntent "" session) ∧
    ∃ report,
      (((Sample.merchant .requery).inMode .requery).notify Sample.canceledIntent ""
        Sample.canceledSession).1 = .ok report ∧
      ∀ other,
        ((Sample.merchant .requery).inMode .trustPayload).notify Sample.canceledIntent "" other =
          (.ok report, other) := by
  constructor
  · have shows : (Value.read Sample.paidIntent).toOption.any
        (Sample.isIntent "SUCCEEDED" "PAID") = true := by
      decide +kernel
    obtain ⟨notification, intent, read, -, stated, named, decoded, status, attempt⟩ :=
      Sample.exists_intent shows
    apply (modes_agree read stated decoded (.inr named)).1
    rw [status, attempt]
    rfl
  · have shows : (Value.read Sample.canceledIntent).toOption.any
        (Sample.isIntent "CANCELLED" "") = true := by
      decide +kernel
    obtain ⟨notification, intent, read, shown, stated, named, decoded, status, attempt⟩ :=
      Sample.exists_intent shows
    have unpaid : PaymentState.ofStatuses intent.status intent.attemptStatus ≠ .ok .paid := by
      simp [status, PaymentState.ofStatuses, openStatuses]
    have sent : ∃ turn ∈ (((Sample.merchant .requery).inMode .requery).notify
        Sample.canceledIntent "" Sample.canceledSession).2.source.turns,
          turn.request.carries "t" = true ∧ turn.reply = .answered 200 Sample.canceledIntent := by
      decide +kernel
    obtain ⟨turn, among, carried, replied⟩ := sent
    rw [← replied] at shown
    exact (modes_agree read stated decoded (.inr named)).2 unpaid _ _ turn "t"
      (List.nil_append _).symm among carried shown

end Merchant

end HostedCheckout
