import HostedCheckout.Proofs.Json.Texts
import HostedCheckout.Proofs.Merchant.Blame
import HostedCheckout.Proofs.Merchant.Modes

/-!
# Recorded notifications

The message of a report is the notification that it is about, unless the report is an error.
The notification is decoded leniently before it is looked at, but it is only reported on when
it was read as a document.  So nothing of it has been replaced.
-/

namespace HostedCheckout

open Json

theorem PaymentReport.message_recording {report : PaymentReport} {body : String}
    (settled : (report.recording body).state ≠ .error) :
    (report.recording body).message = body := by
  rw [state_recording] at settled
  rw [recording, if_neg settled]

/-- A notification that is taken in is the octets of a text. -/
theorem Notification.exists_ofString_of_read {body : Bytes} {notification : Notification}
    (read : Notification.read body = .ok notification) : ∃ text, body = Bytes.ofString text := by
  unfold Notification.read at read
  cases document : Value.read body with
  | error error => simp [document] at read
  | ok value => exact Value.exists_ofString_of_read document

namespace Merchant

variable {merchant : Merchant} {notification : Notification} {session : Session Exchange}
  {report : PaymentReport} {orderId text : String} {body : Bytes}

/-- What is reported when the gateway is asked records the notification. -/
theorem exists_recording_of_confirm
    (reported : (merchant.confirm notification orderId text session).1 = .ok report) :
    ∃ intent : Intent, report = (intent.report orderId).recording text := by
  cases named : notification.intentId? orderId with
  | none =>
      rw [confirm_of_unnamed named] at reported
      cases reported
  | some id =>
      rw [confirm_of_named named] at reported
      obtain ⟨intent, -, rfl⟩ := Operation.map_fst_eq_ok_iff.mp reported
      exact ⟨intent, rfl⟩

/-- So does what is reported of a notification that is taken in, in every mode. -/
theorem exists_recording_of_notify
    (reported : (merchant.notify body orderId session).1 = .ok report) :
    (∃ notification, Notification.read body = .ok notification) ∧
      ∃ intent : Intent, report = (intent.report orderId).recording body.toStringLossy := by
  cases read : Notification.read body with
  | error error =>
      rw [notify_of_unread read] at reported
      cases reported
  | ok notification =>
      refine ⟨⟨notification, rfl⟩, ?_⟩
      by_cases asks : merchant.mode = .requery ∨ notification.claimsPaid orderId = true
      · rw [notify_of_asking read asks] at reported
        exact exists_recording_of_confirm (Operation.mapError_fst_eq_ok_iff.mp reported)
      · rw [notify_of_believing read asks] at reported
        have believed := Operation.mapError_fst_eq_ok_iff.mp reported
        cases shown : notification.snapshot orderId with
        | error error =>
            unfold believe at believed
            rw [Operation.conclude_bind_of_error shown] at believed
            cases believed
        | ok intent =>
            rw [believe_of_shown shown (not_or.mp asks).2] at believed
            cases believed
            exact ⟨intent, rfl⟩

/-- A report that is not an error records the notification octet for octet: its message is
encoded as the notification, which strict decoding gives back.  So lenient decoding has
replaced nothing. -/
theorem ofString_message_of_notify
    (reported : (merchant.notify body orderId session).1 = .ok report)
    (settled : report.state ≠ .error) :
    Bytes.ofString report.message = body ∧ body.toString? = some report.message := by
  obtain ⟨⟨notification, read⟩, intent, rfl⟩ := exists_recording_of_notify reported
  obtain ⟨text, rfl⟩ := Notification.exists_ofString_of_read read
  have message := PaymentReport.message_recording settled
  rw [Bytes.toStringLossy_ofString] at message
  rw [Bytes.toStringLossy_ofString, message]
  exact ⟨rfl, Bytes.toString?_eq_some_iff.mpr rfl⟩

end Merchant

namespace Sample

/-- A canceled intent with characters of one octet up to four, written as they are and with
escapes. -/
def annotatedIntent : Bytes :=
  Bytes.ofString
    ("\x7b\"id\":\"int\",\"status\":\"CANCELLED\",\"note\":[\"aé€😀\",\"\\u0061\\u00e9\\u20ac"
      ++ "\\ud83d\\ude00\"]\x7d")

end Sample

namespace Merchant

/-- The characters of a notification are recorded as they were sent, and so are its escapes. -/
theorem ofString_message_of_annotatedIntent :
    ∃ report, ((Sample.merchant .trustPayload).notify Sample.annotatedIntent "order"
        (Sample.session [])).1 = .ok report ∧ report.state ≠ .error ∧
      Bytes.ofString report.message = Sample.annotatedIntent ∧
      Sample.annotatedIntent.toString? = some report.message := by
  have canceled : ((Sample.merchant .trustPayload).notify Sample.annotatedIntent "order"
      (Sample.session [])).1.toOption.any (·.state != .error) = true := by
    decide +kernel
  obtain ⟨report, reported, settled⟩ := exists_of_any_toOption canceled
  have settled : report.state ≠ .error := by simpa using settled
  exact ⟨report, reported, settled, ofString_message_of_notify reported settled⟩

end Merchant

end HostedCheckout
