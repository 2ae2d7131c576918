import HostedCheckout.Proofs.Merchant.Performance

/-!
# Who is to blame

A call fails through its own fault, or through the gateway.  Its own fault is told from
the call and the mode alone, before anything is done; and whatever goes wrong after that
is the gateway's, unless the clock cannot be read.
-/

namespace HostedCheckout

open Json

/-- Whether a failure is the fault of a notification. -/
def GatewayError.isNotification : GatewayError → Bool
  | .notification _ => true
  | _ => false

theorem PaymentError.ofGateway_of_not_notification {error : GatewayError}
    (other : error.isNotification = false) : ofGateway error = .gateway error := by
  cases error with
  | notification => exact absurd other (Bool.false_ne_true ·.symm)
  | _ => rfl

/-! ## Failures of the gateway -/

namespace Account

variable {account : Account}

theorem not_notification_of_readGrant {status : Nat} {body : Bytes} {error : GatewayError}
    (failed : readGrant status body = .error error) : error.isNotification = false := by
  unfold readGrant at failed
  split at failed
  · cases failed
    rfl
  · split at failed
    · cases failed
      rfl
    · split at failed
      · cases failed
        rfl
      · unfold AccessToken.ofGrant AccessToken.parseExpiry at failed
        split at failed
        · cases failed
        · cases failed
          rfl
    · cases failed
      rfl

theorem not_notification_of_grant {exchange : Exchange} {error : GatewayError}
    (failed : (account.grant exchange).1 = .error error) : error.isNotification = false := by
  unfold grant at failed
  split at failed
  · cases failed
    rfl
  · simp only at failed
    split at failed
    · cases failed
      rfl
    · cases failed
      rfl
    · exact not_notification_of_readGrant failed

theorem not_notification_of_call {method path token : String} {document : Option Value}
    {exchange : Exchange} {error : GatewayError}
    (failed : (account.call method path token document exchange).1 = .error error) :
    error.isNotification = false := by
  unfold call at failed
  split at failed
  · cases failed
    rfl
  · simp only at failed
    split at failed
    · cases failed
      rfl
    · cases failed
      rfl
    · unfold readAnswer at failed
      split at failed
      · cases failed
        rfl
      · split at failed
        · cases failed
          rfl
        · cases failed

theorem not_notification_of_callFor {kind : Kind} {method path token : String}
    {document : Option Value} {exchange : Exchange} {error : GatewayError}
    (failed : (account.callFor kind method path token document exchange).1 = .error error) :
    error.isNotification = false := by
  simp only [callFor] at failed
  split at failed
  · rename_i called
    cases failed
    exact not_notification_of_call called
  · split at failed
    · cases failed
    · cases failed
      rfl

/-- How meeting a demand ends while the clock can be read: with the document, or with a
failure of the gateway. -/
theorem meet_ends (account : Account) (demand : Demand) {session : Session Exchange}
    (representable : session.Representable) :
    (∃ document, (account.meet demand session).1 = .ok document) ∨
      ∃ error, (account.meet demand session).1 = .error (.failed error) ∧
        error.isNotification = false := by
  have obtained := session.obtains_obtainToken account.grant
  unfold meet callWithToken
  rcases ended : session.obtainToken account.grant with ⟨halt | token, middle⟩
  · rw [ended] at obtained
    rw [Operation.bind_of_error ended]
    cases obtained with
    | @unreadable reading _ unjudged =>
        have judged := representable reading
        rw [unjudged] at judged
        exact absurd judged Bool.false_ne_true
    | @refused error source readings lacks asked =>
        exact .inr ⟨error, rfl, not_notification_of_grant (congrArg Prod.fst asked)⟩
  · rw [Operation.bind_of_ok ended, Session.forgetRejected_fst]
    simp only [Session.ask]
    cases called : (account.callFor demand.kind demand.method demand.path token demand.document
        middle.source).1 with
    | ok document => exact .inl ⟨document, rfl⟩
    | error error => exact .inr ⟨error, rfl, not_notification_of_callFor called⟩

end Account

/-! ## Faults of a call -/

namespace Notification

/-- The failure of a notification that names no intent to ask for. -/
def unnamed? (notification : Notification) (orderId : String) : Option GatewayError :=
  if (notification.intentId? orderId).isNone then
    some (.notification "notification names no payment intent")
  else none

/-- What is wrong with a notification for a merchant of some mode. -/
def fault? (notification : Notification) (mode : NotifyMode) (orderId : String) :
    Option GatewayError :=
  match mode, notification.snapshot orderId with
  | .requery, _ => notification.unnamed? orderId
  | .trustPayload, .error error => some error
  | .trustPayload, .ok _ =>
      if notification.claimsPaid orderId then notification.unnamed? orderId else none

variable {notification : Notification} {orderId : String} {error : GatewayError}

theorem isNotification_of_read {body : Bytes} (unread : read body = .error error) :
    error.isNotification = true := by
  unfold read at unread
  split at unread
  · cases unread
    rfl
  · cases unread
  · cases unread
    rfl

theorem isNotification_of_unnamed? (unnamed : notification.unnamed? orderId = some error) :
    error.isNotification = true := by
  unfold unnamed? at unnamed
  split at unnamed
  · cases unnamed
    rfl
  · cases unnamed

theorem isNotification_of_fault? {mode : NotifyMode}
    (fault : notification.fault? mode orderId = some error) : error.isNotification = true := by
  unfold fault? at fault
  split at fault
  · exact isNotification_of_unnamed? fault
  · rename_i unreadable
    cases fault
    unfold snapshot at unreadable
    split at unreadable
    · cases unreadable
      rfl
    · split at unreadable
      · cases unreadable
        rfl
      · cases unreadable
  · split at fault
    · exact isNotification_of_unnamed? fault
    · cases fault

end Notification

/-- What is wrong with a call to a merchant of some mode. -/
def Call.fault? (mode : NotifyMode) : Call → Option PaymentError
  | .pay request =>
      match request.validate with
      | .error fault => some (.ofRequest fault)
      | .ok () => none
  | .query _ => none
  | .notify body orderId =>
      match Notification.read body with
      | .error error => some (.ofGateway error)
      | .ok notification => (notification.fault? mode orderId).map .ofGateway

/-- Whether a payment failed because of the gateway. -/
def PaymentError.isGateway : PaymentError → Bool
  | .gateway _ => true
  | _ => false

theorem PaymentError.not_gateway_of_notification {error : GatewayError}
    (notification : error.isNotification = true) : (ofGateway error).isGateway = false := by
  cases error with
  | notification => rfl
  | _ => exact absurd notification Bool.false_ne_true

theorem Call.not_gateway_of_fault? {call : Call} {mode : NotifyMode} {error : PaymentError}
    (fault : call.fault? mode = some error) : error.isGateway = false := by
  cases call with
  | pay request =>
      simp only [fault?] at fault
      split at fault
      · cases fault
        rfl
      · cases fault
  | query => cases fault
  | notify body orderId =>
      simp only [fault?] at fault
      split at fault
      · rename_i unread
        cases fault
        exact PaymentError.not_gateway_of_notification (Notification.isNotification_of_read unread)
      · obtain ⟨inner, found, rfl⟩ := Option.map_eq_some_iff.mp fault
        exact PaymentError.not_gateway_of_notification (Notification.isNotification_of_fault? found)

namespace Merchant

variable {merchant : Merchant} {notification : Notification} {orderId : String}

theorem confirm_of_unnamed? {error : GatewayError}
    (unnamed : notification.unnamed? orderId = some error) (body : String)
    (session : Session Exchange) :
    merchant.confirm notification orderId body session = (.error (.failed error), session) := by
  unfold Notification.unnamed? at unnamed
  split at unnamed
  · rename_i missing
    cases unnamed
    rw [confirm_of_unnamed (Option.isNone_iff_eq_none.mp missing)]
    rfl
  · cases unnamed

/-- How a confirmation ends for a notification that names an intent. -/
theorem confirm_ends (named : notification.unnamed? orderId = none) (merchant : Merchant)
    (body : String) {session : Session Exchange} (representable : session.Representable) :
    (∃ report, (merchant.confirm notification orderId body session).1 = .ok report) ∨
      ∃ error, (merchant.confirm notification orderId body session).1 = .error (.failed error) ∧
        error.isNotification = false := by
  unfold Notification.unnamed? at named
  split at named
  · cases named
  · rename_i given
    obtain ⟨id, intentId⟩ := Option.ne_none_iff_exists'.mp (Option.isNone_iff_eq_none.not.mp given)
    rw [confirm_of_named intentId, Operation.map_eq]
    rcases merchant.account.meet_ends (.inquiry id) representable with
      ⟨intent, met⟩ | ⟨error, failed, other⟩
    · rw [met]
      exact .inl ⟨_, rfl⟩
    · rw [failed]
      exact .inr ⟨error, rfl, other⟩

/-- A notification that shows an intent, and does not claim that the payment is paid, is
reported on at once. -/
theorem believe_of_shown {intent : Intent} (shown : notification.snapshot orderId = .ok intent)
    (silent : ¬ notification.claimsPaid orderId = true) (merchant : Merchant) (body : String)
    (session : Session Exchange) :
    merchant.believe notification orderId body session =
      (.ok ((intent.report orderId).recording body), session) := by
  have unpaid : ((intent.report orderId).recording body).state ≠ .paid := by
    simpa [Notification.claimsPaid, shown] using silent
  unfold believe
  rw [Operation.conclude_bind_of_ok shown]
  simp only [unpaid, if_false]
  rfl

/-- How a notification is interpreted once it has been read. -/
def interpret (merchant : Merchant) (notification : Notification) (orderId body : String) :
    Operation Exchange GatewayError PaymentReport :=
  match merchant.mode with
  | .requery => merchant.confirm notification orderId body
  | .trustPayload => merchant.believe notification orderId body

theorem interpret_of_fault {error : GatewayError}
    (fault : notification.fault? merchant.mode orderId = some error) (body : String)
    (session : Session Exchange) :
    merchant.interpret notification orderId body session = (.error (.failed error), session) := by
  unfold interpret
  unfold Notification.fault? at fault
  split at fault
  · rename_i mode
    rw [mode]
    exact confirm_of_unnamed? fault body session
  · rename_i mode unreadable
    cases fault
    rw [mode]
    exact Operation.conclude_bind_of_error unreadable session
  · rename_i mode shown
    rw [mode]
    split at fault
    · rename_i claims
      exact (believe_of_claim claims merchant body session).trans
        (confirm_of_unnamed? fault body session)
    · cases fault

theorem interpret_ends (faultless : notification.fault? merchant.mode orderId = none)
    (body : String) {session : Session Exchange} (representable : session.Representable) :
    (∃ report, (merchant.interpret notification orderId body session).1 = .ok report) ∨
      ∃ error, (merchant.interpret notification orderId body session).1 = .error (.failed error) ∧
        error.isNotification = false := by
  unfold interpret
  unfold Notification.fault? at faultless
  split at faultless
  · rename_i mode
    rw [mode]
    exact confirm_ends faultless merchant body representable
  · cases faultless
  · rename_i mode shown
    rw [mode]
    dsimp only
    split at faultless
    · rename_i claims
      rw [believe_of_claim claims merchant body session]
      exact confirm_ends faultless merchant body representable
    · rename_i silent
      rw [believe_of_shown shown silent merchant body session]
      exact .inl ⟨_, rfl⟩

/-- A call with a fault fails with it, and does nothing. -/
theorem perform_of_fault {call : Call} {error : PaymentError}
    (fault : call.fault? merchant.mode = some error) (session : Session Exchange) :
    merchant.perform call session = (.error (.failed error), session) := by
  cases call with
  | pay request =>
      simp only [Call.fault?] at fault
      split at fault
      · rename_i refused
        cases fault
        simp only [perform, Operation.map_eq, pay, refused]
        rfl
      · cases fault
  | query => cases fault
  | notify body orderId =>
      simp only [Call.fault?] at fault
      simp only [perform, Operation.map_eq]
      split at fault
      · rename_i unread
        cases fault
        rw [notify_of_unread unread]
        rfl
      · rename_i notification read
        obtain ⟨inner, found, rfl⟩ := Option.map_eq_some_iff.mp fault
        have interpreted : merchant.notify body orderId session =
            (merchant.interpret notification orderId body.toStringLossy).mapError .ofGateway
              session := notify_of_read read merchant session
        simp only [interpreted, Operation.mapError, interpret_of_fault found]
        rfl

/-- A call without one is answered, or fails because of the gateway. -/
theorem perform_of_faultless {call : Call} (faultless : call.fault? merchant.mode = none)
    {session : Session Exchange} (representable : session.Representable) :
    (∃ answer, (merchant.perform call session).1 = .ok answer) ∨
      ∃ error, (merchant.perform call session).1 = .error (.failed (.gateway error)) := by
  cases call with
  | pay request =>
      simp only [Call.fault?] at faultless
      split at faultless
      · cases faultless
      · rename_i acceptable
        simp only [perform, pay_of_acceptable acceptable, Operation.map_eq, Operation.mapError]
        rcases merchant.account.meet_ends (.creation request) representable with
          ⟨intent, met⟩ | ⟨error, failed, -⟩
        · rw [met]
          exact .inl ⟨_, rfl⟩
        · rw [failed]
          exact .inr ⟨.creation error, rfl⟩
  | query intentId =>
      simp only [perform, query_eq, Operation.map_eq, Operation.mapError]
      rcases merchant.account.meet_ends (.inquiry intentId) representable with
        ⟨intent, met⟩ | ⟨error, failed, other⟩
      · rw [met]
        exact .inl ⟨_, rfl⟩
      · rw [failed]
        simp only [PaymentError.ofGateway_of_not_notification other]
        exact .inr ⟨error, rfl⟩
  | notify body orderId =>
      simp only [Call.fault?] at faultless
      split at faultless
      · cases faultless
      · rename_i notification read
        have interpreted : merchant.notify body orderId session =
            (merchant.interpret notification orderId body.toStringLossy).mapError .ofGateway
              session := notify_of_read read merchant session
        simp only [perform, Operation.map_eq, interpreted, Operation.mapError]
        rcases interpret_ends (Option.map_eq_none_iff.mp faultless) body.toStringLossy
          representable with ⟨report, reported⟩ | ⟨error, failed, other⟩
        · rw [reported]
          exact .inl ⟨_, rfl⟩
        · rw [failed]
          simp only [PaymentError.ofGateway_of_not_notification other]
          exact .inr ⟨error, rfl⟩

end Merchant

end HostedCheckout
