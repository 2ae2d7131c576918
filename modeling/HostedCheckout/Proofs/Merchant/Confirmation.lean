import HostedCheckout.Proofs.Merchant.Performance

/-!
# Confirmed payments

A payment is reported as paid only after the gateway has said so: in a turn of
the very call that reports it, the account has asked for the intent that the
call names, and was shown one that succeeded and brought the money.  The price
that is reported is the one of that intent.
-/

namespace HostedCheckout

open Json

/-- Whether a call names an intent.  A notification names the order it was sent
to, and only for want of one what it says of itself. -/
def Call.Names : Call → String → Prop
  | .pay _, _ => False
  | .query intentId, id => id = intentId
  | .notify body orderId, id =>
      (orderId ≠ "" ∧ id = orderId) ∨
        (orderId = "" ∧ id ≠ "" ∧ ∃ notification, Notification.read body = .ok notification ∧
          notification.textMember? "id" = some id)

/-- Whether an intent says that the money is there. -/
structure Intent.IsPaid (intent : Intent) : Prop where
  status_eq : intent.status = "SUCCEEDED"
  attempt_eq : intent.attemptStatus = "PAID" ∨ intent.attemptStatus = "SETTLED"

/-- A turn in which an account asks for an intent, and is shown it. -/
structure Account.Learns (account : Account) (turn : Turn) (id : String) (intent : Intent) :
    Prop where
  asked : ∃ token draft,
    account.callDraft "GET" s!"pa/payment_intents/{id}" token none = .ok draft ∧
      turn.request = draft.request
  shown : ∃ status body value, turn.reply = .answered status body ∧ status < 400 ∧
    Value.read body = .ok value ∧ Intent.kind.ofValue value = .ok intent

/-- Whether an answer reports a paid payment. -/
def Answer.isPaid : Answer → Bool
  | .started _ => false
  | .reported report => report.state == .paid

theorem Answer.reported_of_isPaid {outcome : Except (Halt PaymentError) Answer}
    (answered : outcome.toOption.any isPaid = true) :
    ∃ report, outcome = .ok (.reported report) ∧ report.state = .paid := by
  rcases outcome with _ | ⟨_ | report⟩
  · exact absurd answered Bool.false_ne_true
  · exact absurd answered Bool.false_ne_true
  · exact ⟨report, rfl, eq_of_beq answered⟩

/-- Two statuses stand for a paid payment in no other way. -/
theorem PaymentState.ofStatuses_eq_paid_iff {intent attempt : String} :
    PaymentState.ofStatuses intent attempt = .ok .paid ↔
      intent = "SUCCEEDED" ∧ attempt ∈ paidAttempts := by
  unfold ofStatuses
  constructor
  · intro paid
    split at paid
    · cases paid
    · split at paid
      · cases paid
      · split at paid
        · cases paid
        · split at paid
          · assumption
          · split at paid <;> cases paid
  · rintro ⟨rfl, brought⟩
    have notOpen : "SUCCEEDED" ∉ openStatuses := by decide
    simp [notOpen, brought]

/-- What is reported as paid is an intent that is. -/
theorem Intent.isPaid_of_report {intent : Intent} {orderId : String}
    (paid : (intent.report orderId).state = .paid) :
    intent.IsPaid ∧ (intent.report orderId).price = intent.amount ∧
      (intent.report orderId).currency = intent.currency := by
  unfold report at paid ⊢
  cases known : PaymentState.ofStatuses intent.status intent.attemptStatus with
  | error =>
      rw [known] at paid
      cases paid
  | ok state =>
      rw [known] at paid
      obtain rfl : state = .paid := paid
      obtain ⟨succeeded, brought⟩ := PaymentState.ofStatuses_eq_paid_iff.mp known
      exact ⟨⟨succeeded, by simpa [paidAttempts] using brought⟩, rfl, rfl⟩

/-- The intent that meeting an inquiry ends with was shown in one of its turns. -/
theorem Account.Meets.learns {account : Account} {id : String} {session after : Session Exchange}
    {turns : List Turn} {intent : Intent}
    (meets : account.Meets (.inquiry id) session turns (.ok intent, after)) :
    ∃ turn ∈ turns, account.Learns turn id intent := by
  cases meets with
  | @called fetched _ token middle _ fetches calls =>
      cases calls with
      | @answered draft value _ drafted read decoded =>
          obtain ⟨status, body, replied, accepted, known⟩ := Reply.value?_eq_some read
          refine ⟨middle.source.turn draft, List.mem_append_right _ List.mem_cons_self, ?_⟩
          exact ⟨⟨token, draft, drafted, rfl⟩,
            status, body, value, replied, accepted, known, decoded⟩

/-- The intent that is asked for is the one that the notification names. -/
theorem Call.names_of_intentId? {body : Bytes} {orderId id : String} {notification : Notification}
    (read : Notification.read body = .ok notification)
    (named : notification.intentId? orderId = some id) : (Call.notify body orderId).Names id := by
  unfold Notification.intentId? at named
  split at named
  · rename_i given
    exact .inl ⟨given, (Option.some.inj named).symm⟩
  · rename_i absent
    obtain ⟨inside, nonempty⟩ := Option.filter_eq_some_iff.mp named
    exact .inr ⟨Decidable.not_not.mp absent, by simpa using nonempty, notification, read, inside⟩

namespace Merchant

variable {merchant : Merchant} {session : Session Exchange} {report : PaymentReport}

/-- A call that reports a paid payment has a demand: the intent that it names,
from which it takes what it reports. -/
theorem demand_of_paid {call : Call}
    (reported : (merchant.perform call session).1 = .ok (.reported report))
    (paid : report.state = .paid) :
    ∃ (id : String) (intent : Intent), call.Names id ∧
      merchant.demand? call = some (.inquiry id) ∧
      (merchant.account.meet (.inquiry id) session).1 = .ok intent ∧
      intent.IsPaid ∧ report.price = intent.amount ∧ report.currency = intent.currency := by
  cases call with
  | pay request =>
      obtain ⟨response, -, wrong⟩ := Operation.map_fst_eq_ok_iff.mp reported
      cases wrong
  | query intentId =>
      obtain ⟨_, queried, same⟩ := Operation.map_fst_eq_ok_iff.mp reported
      cases same
      rw [query_eq] at queried
      obtain ⟨intent, renamed, rfl⟩ := Operation.map_fst_eq_ok_iff.mp queried
      have met := Operation.mapError_fst_eq_ok_iff.mp renamed
      exact ⟨intentId, intent, rfl, rfl, met, intent.isPaid_of_report paid⟩
  | notify body orderId =>
      obtain ⟨_, notified, same⟩ := Operation.map_fst_eq_ok_iff.mp reported
      cases same
      cases read : Notification.read body with
      | error error =>
          rw [notify_of_unread read] at notified
          cases notified
      | ok notification =>
          by_cases asks : merchant.mode = .requery ∨ notification.claimsPaid orderId = true
          · rw [notify_of_asking read asks] at notified
            have confirmed := Operation.mapError_fst_eq_ok_iff.mp notified
            cases named : notification.intentId? orderId with
            | none =>
                rw [confirm_of_unnamed named] at confirmed
                cases confirmed
            | some id =>
                rw [confirm_of_named named] at confirmed
                obtain ⟨intent, met, rfl⟩ := Operation.map_fst_eq_ok_iff.mp confirmed
                simp only [PaymentReport.state_recording] at paid
                have demanded : merchant.demand? (.notify body orderId) = some (.inquiry id) := by
                  simp [demand?, read, asks, named]
                exact ⟨id, intent, Call.names_of_intentId? read named, demanded, met,
                  by simpa using intent.isPaid_of_report paid⟩
          · rw [notify_of_believing read asks] at notified
            have believed := Operation.mapError_fst_eq_ok_iff.mp notified
            have silent : notification.claimsPaid orderId = false := by
              simpa using (not_or.mp asks).2
            exact absurd paid
              ((believe_of_no_claim silent merchant body.toStringLossy session).2 report believed)

/-- A payment is reported as paid only if, in a turn of this very call, the
account has learned of a paid intent that the call names.  What is reported of
price and currency is what it has learned. -/
theorem paid_is_confirmed {call : Call}
    (reported : (merchant.perform call session).1 = .ok (.reported report))
    (paid : report.state = .paid) :
    ∃ id turns turn intent, call.Names id ∧
      (merchant.perform call session).2.source.turns = session.source.turns ++ turns ∧
      turn ∈ turns ∧ merchant.account.Learns turn id intent ∧ intent.IsPaid ∧
      report.price = intent.amount ∧ report.currency = intent.currency := by
  obtain ⟨id, intent, names, demanded, met, isPaid, price, currency⟩ := demand_of_paid reported paid
  obtain ⟨turns, meets⟩ := merchant.account.meets_meet (.inquiry id) session
  generalize result : merchant.account.meet (.inquiry id) session = ended at met meets
  rcases ended with ⟨outcome, after⟩
  obtain rfl : outcome = .ok intent := met
  obtain ⟨turn, among, learns⟩ := meets.learns
  refine ⟨id, turns, turn, intent, names, ?_, among, learns, isPaid, price, currency⟩
  rw [perform_of_demand demanded, result]
  exact meets.leads.turns_eq

/-- A merchant that believes notifications does not believe this one, which
claims that the payment is paid: it asks first. -/
theorem paid_is_confirmed_after_claim :
    ∃ report,
      ((Sample.merchant .trustPayload).perform (.notify Sample.paidIntent "")
        (Sample.session [Sample.grant "t", .answered 200 Sample.paidIntent])).1 =
          .ok (.reported report) ∧
      report.state = .paid ∧
      ∃ id turns turn intent, (Call.notify Sample.paidIntent "").Names id ∧
        ((Sample.merchant .trustPayload).perform (.notify Sample.paidIntent "")
          (Sample.session [Sample.grant "t", .answered 200 Sample.paidIntent])).2.source.turns =
            [] ++ turns ∧
        turn ∈ turns ∧ Sample.account.Learns turn id intent ∧ intent.IsPaid ∧
        report.price = intent.amount ∧ report.currency = intent.currency := by
  have answered :
      ((Sample.merchant .trustPayload).perform (.notify Sample.paidIntent "")
        (Sample.session [Sample.grant "t", .answered 200 Sample.paidIntent])).1.toOption.any
          Answer.isPaid = true := by
    decide +kernel
  obtain ⟨report, reported, paid⟩ := Answer.reported_of_isPaid answered
  exact ⟨report, reported, paid, paid_is_confirmed reported paid⟩

end Merchant

end HostedCheckout
