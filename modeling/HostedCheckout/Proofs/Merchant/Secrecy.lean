import HostedCheckout.Proofs.Gateway.Secrecy
import HostedCheckout.Proofs.Merchant.Performance
import HostedCheckout.Settings.Basic

/-!
# Where credentials go

Merchants that differ in the credentials of their accounts answer alike whatever they
are asked, send the same requests but for two headers of those for a token, remember
the same tokens, and are shown alike in diagnostics.
-/

namespace HostedCheckout

theorem Account.Siblings.twins_meet {first second : Account} (siblings : first.Siblings second)
    (demand : Demand) :
    Operation.Twins (Exchange.Twins first second) (first.meet demand) (second.meet demand) := by
  refine (Operation.twins_obtainToken siblings.agree_grant).bind fun token => ?_
  exact Operation.twins_forgetRejected token (.ask (siblings.agree_callFor _ _ _ _ _))

/-! ## Merchants -/

/-- Merchants that differ at most in the credentials of their accounts. -/
structure Merchant.Siblings (first second : Merchant) : Prop where
  account : first.account.Siblings second.account
  checkoutUrl_eq : first.checkoutUrl = second.checkoutUrl
  mode_eq : first.mode = second.mode

namespace Merchant.Siblings

variable {first second : Merchant} (siblings : first.Siblings second)
include siblings

theorem twins_pay (request : PayRequest) :
    Operation.Twins (Exchange.Twins first.account second.account) (first.pay request)
      (second.pay request) := by
  cases acceptable : request.validate with
  | error fault =>
      unfold pay
      rw [acceptable]
      exact .fail _
  | ok =>
      rw [pay_of_acceptable acceptable, pay_of_acceptable acceptable, siblings.checkoutUrl_eq]
      exact ((siblings.account.twins_meet (.creation request)).mapError _).mapError _ |>.map _

theorem twins_query (intentId : String) :
    Operation.Twins (Exchange.Twins first.account second.account) (first.query intentId)
      (second.query intentId) := by
  rw [query_eq, query_eq]
  exact ((siblings.account.twins_meet (.inquiry intentId)).mapError _).map _

theorem twins_confirm (notification : Notification) (orderId body : String) :
    Operation.Twins (Exchange.Twins first.account second.account)
      (first.confirm notification orderId body) (second.confirm notification orderId body) := by
  cases named : notification.intentId? orderId with
  | none =>
      rw [confirm_of_unnamed named, confirm_of_unnamed named]
      exact .fail _
  | some id =>
      rw [confirm_of_named named, confirm_of_named named]
      exact (siblings.account.twins_meet (.inquiry id)).map _

theorem twins_believe (notification : Notification) (orderId body : String) :
    Operation.Twins (Exchange.Twins first.account second.account)
      (first.believe notification orderId body) (second.believe notification orderId body) := by
  refine (Operation.Twins.conclude _).bind fun snapshot => ?_
  by_cases paid : ((snapshot.report orderId).recording body).state = .paid
  · simp only [paid, if_true]
    exact siblings.twins_confirm notification orderId body
  · simp only [paid, if_false]
    exact .pure _

theorem twins_notify (body : Bytes) (orderId : String) :
    Operation.Twins (Exchange.Twins first.account second.account) (first.notify body orderId)
      (second.notify body orderId) := by
  refine ((Operation.Twins.conclude _).bind fun notification => ?_).mapError _
  rw [siblings.mode_eq]
  cases second.mode with
  | requery => exact siblings.twins_confirm notification orderId _
  | trustPayload => exact siblings.twins_believe notification orderId _

theorem twins_perform (call : Call) :
    Operation.Twins (Exchange.Twins first.account second.account) (first.perform call)
      (second.perform call) := by
  cases call with
  | pay request => exact (siblings.twins_pay request).map _
  | query intentId => exact (siblings.twins_query intentId).map _
  | notify body orderId => exact (siblings.twins_notify body orderId).map _

/-- Serving the same calls, such merchants answer alike and leave twins. -/
theorem serve (calls : List Call) {here there : Session Exchange}
    (twins : here.Twins (Exchange.Twins first.account second.account) there) :
    (here.serve (calls.map (Visit.mk first))).1 = (there.serve (calls.map (Visit.mk second))).1 ∧
      (here.serve (calls.map (Visit.mk first))).2.Twins
        (Exchange.Twins first.account second.account)
        (there.serve (calls.map (Visit.mk second))).2 := by
  induction calls generalizing here there with
  | nil => exact ⟨rfl, twins⟩
  | cons call rest ih =>
      obtain ⟨outcome_eq, after⟩ := siblings.twins_perform call twins
      obtain ⟨outcomes_eq, last⟩ := ih after
      exact ⟨List.cons_eq_cons.mpr ⟨outcome_eq, outcomes_eq⟩, last⟩

end Merchant.Siblings

/-! ## Options and settings -/

/-- The same options with other credentials. -/
def MerchantOptions.withCredentials (options : MerchantOptions) (credentials : Credentials) :
    MerchantOptions :=
  { options with credentials }

/-- The same settings with other credentials. -/
def ServiceSettings.withCredentials (settings : ServiceSettings) (credentials : Credentials) :
    ServiceSettings :=
  { settings with gateway := { settings.gateway with credentials } }

/-- What two merchants let be seen of the options they are set up from is the same. -/
structure MerchantOptions.Indistinct (first second : MerchantOptions) (calls : List Call)
    (clock : Nat → Int) (exchange : Exchange) : Prop where
  outcomes_eq : (first.serve calls clock exchange).1 = (second.serve calls clock exchange).1
  sessions : (first.serve calls clock exchange).2.Twins
    (Exchange.Twins first.merchant.account second.merchant.account)
    (second.serve calls clock exchange).2
  shown_eq : first.shown = second.shown
  shown_merchant_eq : first.merchant.shown = second.merchant.shown
  shown_credentials_eq : first.credentials.shown = second.credentials.shown

/-- Credentials go into two headers of the requests for a token, and nowhere else. -/
theorem credentials_are_confined (options : MerchantOptions) {first second : Credentials}
    (areSendable : first.areSendable = true) (othersAreSendable : second.areSendable = true)
    (calls : List Call) (clock : Nat → Int) (exchange : Exchange) :
    (options.withCredentials first).Indistinct (options.withCredentials second) calls clock
        exchange ∧
      ∀ settings : ServiceSettings,
        (settings.withCredentials first).shown = (settings.withCredentials second).shown := by
  have siblings : (options.withCredentials first).merchant.Siblings
      (options.withCredentials second).merchant :=
    ⟨⟨rfl, areSendable, othersAreSendable⟩, rfl, rfl⟩
  have twins : ((options.withCredentials first).session clock exchange).Twins
      (Exchange.Twins (options.withCredentials first).merchant.account
        (options.withCredentials second).merchant.account)
      ((options.withCredentials second).session clock exchange) :=
    ⟨rfl, rfl, rfl, rfl, .refl exchange⟩
  obtain ⟨outcomes_eq, sessions⟩ := siblings.serve calls twins
  exact ⟨⟨outcomes_eq, sessions, rfl, rfl, rfl⟩, fun settings => rfl⟩

namespace Sample

/-- Options for a merchant with the account. -/
def options : MerchantOptions :=
  ⟨account.credentials, account.endpoint, "https://c/?", .ofSeconds 10, .ofSeconds 0, .requery⟩

/-- Other credentials than those of the account. -/
def otherCredentials : Credentials := ⟨⟨"other"⟩, ⟨"secret"⟩⟩

/-- Calls for which a token is asked twice. -/
def calls : List Call := [.query "int", .notify paidIntent "", .query "../int"]

/-- A line on which no token is granted at first. -/
def reluctant : Exchange :=
  ⟨[.answered 401 [], grant "t", .answered 200 paidIntent], .closed, []⟩

end Sample

/-- The requests for a token are told apart by the gateway, and by no one else. -/
theorem credentials_are_confined_of_two_grants :
    Sample.account.credentials.areSendable = true ∧
      Sample.otherCredentials.areSendable = true ∧
      ((Sample.options.withCredentials Sample.account.credentials).Indistinct
          (Sample.options.withCredentials Sample.otherCredentials) Sample.calls
          (fun _ => 1704067200000000000) Sample.reluctant ∧
        ∀ settings : ServiceSettings,
          (settings.withCredentials Sample.account.credentials).shown =
            (settings.withCredentials Sample.otherCredentials).shown) ∧
      ((Sample.options.withCredentials Sample.account.credentials).serve Sample.calls
          (fun _ => 1704067200000000000) Sample.reluctant).2.source.turns.length = 4 ∧
      ((Sample.options.withCredentials Sample.account.credentials).serve Sample.calls
          (fun _ => 1704067200000000000) Sample.reluctant).2.source.turns ≠
        ((Sample.options.withCredentials Sample.otherCredentials).serve Sample.calls
          (fun _ => 1704067200000000000) Sample.reluctant).2.source.turns := by
  have areSendable : Sample.account.credentials.areSendable = true := by decide
  have othersAreSendable : Sample.otherCredentials.areSendable = true := by decide
  refine ⟨areSendable, othersAreSendable, ?_, by decide +kernel, by decide +kernel⟩
  exact credentials_are_confined Sample.options areSendable othersAreSendable Sample.calls
    (fun _ => 1704067200000000000) Sample.reluctant

end HostedCheckout
