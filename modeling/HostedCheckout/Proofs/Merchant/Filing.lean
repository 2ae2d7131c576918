import HostedCheckout.Proofs.Merchant.Blame
import HostedCheckout.Proofs.Merchant.Confirmation
import HostedCheckout.Proofs.Merchant.Modes

/-!
# Where reports are filed

A report on a notification is filed under the order that the notification was sent to.  The
intent that is asked for is that of the order, if one is given, and otherwise the one that the
notification names; so a report is filed under the intent that was asked for exactly when an
order was given.
-/

namespace HostedCheckout

open Json

theorem Demand.inquiry_injective {first second : String}
    (same : Demand.inquiry first = Demand.inquiry second) : first = second := by
  have paths : "pa/payment_intents" ++ "/" ++ first = "pa/payment_intents" ++ "/" ++ second :=
    congrArg Demand.path same
  have lists := congrArg String.toList paths
  simp only [String.toList_append, List.append_right_inj] at lists
  exact String.toList_injective lists

@[simp] theorem Intent.orderId_report (intent : Intent) (orderId : String) :
    (intent.report orderId).orderId = orderId := by
  unfold report
  split <;> rfl

@[simp] theorem PaymentReport.orderId_recording (body : String) (report : PaymentReport) :
    (report.recording body).orderId = report.orderId := by
  unfold recording
  split <;> rfl

namespace Merchant

variable {merchant : Merchant} {notification : Notification} {session : Session Exchange}
  {report : PaymentReport} {orderId text : String} {body : Bytes}

theorem orderId_of_confirm
    (reported : (merchant.confirm notification orderId text session).1 = .ok report) :
    report.orderId = orderId := by
  cases named : notification.intentId? orderId with
  | none =>
      rw [confirm_of_unnamed named] at reported
      cases reported
  | some id =>
      rw [confirm_of_named named] at reported
      obtain ⟨intent, -, rfl⟩ := Operation.map_fst_eq_ok_iff.mp reported
      exact (PaymentReport.orderId_recording _ _).trans (intent.orderId_report orderId)

theorem orderId_of_believe
    (reported : (merchant.believe notification orderId text session).1 = .ok report) :
    report.orderId = orderId := by
  by_cases claims : notification.claimsPaid orderId = true
  · rw [believe_of_claim claims] at reported
    exact orderId_of_confirm reported
  · cases shown : notification.snapshot orderId with
    | error error =>
        unfold believe at reported
        rw [Operation.conclude_bind_of_error shown] at reported
        cases reported
    | ok intent =>
        rw [believe_of_shown shown claims] at reported
        cases reported
        simp

/-- Whatever the mode, a report on a notification is filed under the order. -/
theorem orderId_of_notify (reported : (merchant.notify body orderId session).1 = .ok report) :
    report.orderId = orderId := by
  cases read : Notification.read body with
  | error error =>
      rw [notify_of_unread read] at reported
      cases reported
  | ok notification =>
      rw [notify_of_read read] at reported
      have ended := Operation.mapError_fst_eq_ok_iff.mp reported
      cases mode : merchant.mode with
      | requery =>
          rw [mode] at ended
          exact orderId_of_confirm ended
      | trustPayload =>
          rw [mode] at ended
          exact orderId_of_believe ended

/-- The intent that is demanded for a notification is the one that it names. -/
theorem names_of_demand {id : String}
    (demanded : merchant.demand? (.notify body orderId) = some (.inquiry id)) :
    (Call.notify body orderId).Names id := by
  simp only [demand?] at demanded
  split at demanded
  · cases demanded
  · rename_i notification read
    split at demanded
    · obtain ⟨other, named, same⟩ := Option.map_eq_some_iff.mp demanded
      obtain rfl := Demand.inquiry_injective same
      exact Call.names_of_intentId? read named
    · cases demanded

/-- Whether a merchant asks for an intent when it takes in a notification: the intent is
demanded, and a request for it is sent. -/
structure AsksFor (merchant : Merchant) (body : Bytes) (orderId : String)
    (session : Session Exchange) (id : String) : Prop where
  demanded : merchant.demand? (.notify body orderId) = some (.inquiry id)
  sent : ∃ turns, (merchant.notify body orderId session).2.source.turns =
      session.source.turns ++ turns ∧
    ∃ turn ∈ turns, ∃ token draft, merchant.account.callDraft "GET" s!"pa/payment_intents/{id}"
      token none = .ok draft ∧ turn.request = draft.request

/-- The report on a notification is filed under the intent that was asked for if and only if
an order was given.  Without one, the intent is the one that the notification names, and the
report is filed under nothing. -/
theorem filed_under_intent_iff {id : String} (asks : merchant.AsksFor body orderId session id)
    (reported : (merchant.notify body orderId session).1 = .ok report) :
    (report.orderId = id ↔ orderId ≠ "") ∧ (Call.notify body orderId).Names id ∧
      report.orderId = orderId := by
  have filed := orderId_of_notify reported
  have names := names_of_demand asks.demanded
  refine ⟨?_, names, filed⟩
  rw [filed]
  rcases names with ⟨given, same⟩ | ⟨absent, nonempty, -⟩
  · exact ⟨fun _ => given, fun _ => same.symm⟩
  · exact ⟨fun same => absurd (same.symm.trans absent) nonempty, fun given => absurd absent given⟩

end Merchant

namespace Sample

/-- A session of 2024 that remembers a token until 2030, before an intent is shown. -/
def furnished : Session Exchange :=
  { session [.answered 200 canceledIntent] with
    token := some ⟨⟨"t"⟩, "2030-01-01T00:00:00Z", ⟨1893456000, 0⟩⟩ }

/-- A merchant asks for the intent that a notification names. -/
theorem asksFor_canceledIntent {orderId id : String}
    (named : (Notification.read canceledIntent).toOption.any
      (fun notification => notification.intentId? orderId == some id) = true)
    (sent : ((merchant .requery).notify canceledIntent orderId furnished).2.source.turns.any
      (fun turn => (account.callDraft "GET" s!"pa/payment_intents/{id}" "t" none).toOption.any
        fun draft => turn.request == draft.request) = true) :
    (merchant .requery).AsksFor canceledIntent orderId furnished id := by
  constructor
  · obtain ⟨notification, read, checked⟩ := exists_of_any_toOption named
    have asks : (merchant .requery).mode = .requery ∨ notification.claimsPaid orderId = true :=
      .inl rfl
    simp only [Merchant.demand?, read, if_pos asks, eq_of_beq checked, Option.map_some]
  · obtain ⟨turn, among, asked⟩ := List.any_eq_true.mp sent
    obtain ⟨draft, drafted, same⟩ := exists_of_any_toOption asked
    exact ⟨_, (List.nil_append _).symm, turn, among, "t", draft, drafted, eq_of_beq same⟩

theorem exists_report (orderId : String)
    (reports : ((merchant .requery).notify canceledIntent orderId furnished).1.toOption.isSome =
      true) :
    ∃ report, ((merchant .requery).notify canceledIntent orderId furnished).1 = .ok report := by
  obtain ⟨report, reported⟩ := Option.isSome_iff_exists.mp reports
  exact ⟨report, toOption_eq_some_iff.mp reported⟩

end Sample

namespace Merchant

/-- A notification that was sent to another order than the intent that it names: the report is
filed under the order, which is what was asked for. -/
theorem filed_under_intent_of_order :
    (Sample.merchant .requery).AsksFor Sample.canceledIntent "other" Sample.furnished "other" ∧
    ∃ report, ((Sample.merchant .requery).notify Sample.canceledIntent "other"
        Sample.furnished).1 = .ok report ∧
      (report.orderId = "other" ↔ "other" ≠ "") ∧
      (Call.notify Sample.canceledIntent "other").Names "other" ∧ report.orderId = "other" := by
  have asks : (Sample.merchant .requery).AsksFor Sample.canceledIntent "other" Sample.furnished
      "other" :=
    Sample.asksFor_canceledIntent (by decide +kernel) (by decide +kernel)
  obtain ⟨report, reported⟩ := Sample.exists_report "other" (by decide +kernel)
  exact ⟨asks, report, reported, filed_under_intent_iff asks reported⟩

/-- When it was sent to no order, the intent that it names is asked for, and the report is
filed under nothing. -/
theorem filed_under_nothing :
    (Sample.merchant .requery).AsksFor Sample.canceledIntent "" Sample.furnished "int" ∧
    ∃ report, ((Sample.merchant .requery).notify Sample.canceledIntent "" Sample.furnished).1 =
        .ok report ∧ report.orderId = "" ∧ report.orderId ≠ "int" := by
  have asks : (Sample.merchant .requery).AsksFor Sample.canceledIntent "" Sample.furnished
      "int" :=
    Sample.asksFor_canceledIntent (by decide +kernel) (by decide +kernel)
  obtain ⟨report, reported⟩ := Sample.exists_report "" (by decide +kernel)
  have filed := orderId_of_notify reported
  exact ⟨asks, report, reported, filed, by simp [filed]⟩

end Merchant

end HostedCheckout
