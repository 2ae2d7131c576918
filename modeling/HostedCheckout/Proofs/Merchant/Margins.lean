import HostedCheckout.Proofs.Merchant.Outcomes
import HostedCheckout.Proofs.Session.Overruns
import HostedCheckout.Settings.Basic

/-!
# Margins that the calendar can bear

A call breaks off when the clock and the margin together leave the calendar.
That happens in a look at a remembered token and nowhere else, so never before
a token has been granted.  The main statement says for which options it never
happens, whatever is called and replied, between the years 2000 and 2400.
-/

namespace HostedCheckout

/-- The first nanosecond of a year. -/
def Instant.startOf (year : Int) : Int := Date.toDays ⟨year, 1, 1⟩ * 86400 * perSecond

/-- Whether a call has come to an end: it is answered, or has failed. -/
def isEnded : Except (Halt PaymentError) Answer → Bool
  | .ok _ | .error (.failed _) => true
  | .error .clockOutOfRange => false

theorem isEnded_eq_false_iff {outcome : Except (Halt PaymentError) Answer} :
    isEnded outcome = false ↔ outcome = .error .clockOutOfRange := by
  rcases outcome with (_ | _) | _ <;> simp [isEnded]

/-! ## Calls -/

/-- Meeting a demand breaks off exactly when a look does. -/
theorem Account.meet_overruns_iff (account : Account) (demand : Demand)
    (session : Session Exchange) :
    (account.meet demand session).1 = .error .clockOutOfRange ↔ session.Overruns := by
  rw [← Session.obtainToken_overruns_iff account.grant]
  unfold meet callWithToken
  rcases obtained : session.obtainToken account.grant with ⟨halt | token, middle⟩
  · rw [Operation.bind_of_error obtained]
    simp
  · rw [Operation.bind_of_ok obtained, Session.forgetRejected_fst]
    simp only [Session.ask]
    cases (account.callFor demand.kind demand.method demand.path token demand.document
      middle.source).1 <;> simp

/-- A call breaks off exactly when it has a demand, and meeting the demand does. -/
theorem Merchant.perform_overruns_iff (merchant : Merchant) (call : Call)
    (session : Session Exchange) :
    (merchant.perform call session).1 = .error .clockOutOfRange ↔
      (merchant.demand? call).isSome = true ∧ session.Overruns := by
  cases demanded : merchant.demand? call with
  | none =>
      rcases perform_of_settled demanded session with ⟨failure, failed⟩ | ⟨-, answer, answered⟩
      · rw [failed]
        simp
      · rw [answered]
        simp
  | some demand =>
      have conveys := conveys_of_demand demanded session
      rw [← merchant.account.meet_overruns_iff demand]
      generalize (merchant.account.meet demand session).1 = met at conveys
      generalize (merchant.perform call session).1 = outcome at conveys
      cases conveys <;> simp

/-! ## Runs -/

/-- Sessions of an account in which no look breaks off: the clock stays within the
calendar, or no token can be granted. -/
inductive Account.Calm (account : Account) (session : Session Exchange) : Prop
  | within : session.Representable → Calm account session
  | tokenless {fault : TransportFault} : account.grantDraft = .error fault →
      session.token = none → Calm account session

namespace Account

variable {account : Account} {session after : Session Exchange} {turns : List Turn}

/-- No token is ever granted to an account whose request for one cannot be sent. -/
theorem remembered_of_unprepared {fault : TransportFault}
    (unprepared : account.grantDraft = .error fault) (turns : List Turn) :
    account.remembered turns = none := by
  have nothing : account.lastGrant? turns = none := by
    induction turns with
    | nil => rfl
    | cons turn later ih => simp [lastGrant?, ih, asks, unprepared]
  simp [remembered, nothing]

theorem Calm.not_overruns (calm : account.Calm session) : ¬ session.Overruns := by
  rintro ⟨present, outside⟩
  cases calm with
  | within representable =>
      rcases outside with unjudged | ⟨-, unjudged⟩
      · have judged := representable session.readings
        rw [unjudged] at judged
        cases judged
      · have judged := representable (session.readings + 1)
        rw [unjudged] at judged
        cases judged
  | tokenless _ empty =>
      rw [empty] at present
      cases present

theorem Calm.of_leads (calm : account.Calm session) (leads : account.Leads turns session after) :
    account.Calm after := by
  cases calm with
  | within representable => exact .within (leads.representable representable)
  | tokenless unprepared empty =>
      refine .tokenless unprepared ?_
      have history := leads.history
      rw [empty] at history
      rw [history.eq_remembered, remembered_of_unprepared unprepared]

end Account

/-- In a calm session every visit comes to an end. -/
theorem Session.ended_of_calm {account : Account} (visits : List Visit)
    (shared : ∀ visit ∈ visits, visit.merchant.account = account) {session : Session Exchange}
    (calm : account.Calm session) :
    ∀ outcome ∈ (session.serve visits).1, isEnded outcome = true := by
  induction visits generalizing session with
  | nil => exact fun outcome among => absurd among List.not_mem_nil
  | cons visit rest ih =>
      intro outcome among
      obtain ⟨turns, leads⟩ := visit.merchant.leads_of_perform visit.call session
      rw [shared visit List.mem_cons_self] at leads
      have ended : isEnded (visit.merchant.perform visit.call session).1 = true := by
        rw [← Bool.not_eq_false, isEnded_eq_false_iff, Merchant.perform_overruns_iff]
        exact fun breaks => calm.not_overruns breaks.2
      rcases List.mem_cons.mp among with rfl | later
      · exact ended
      · exact ih (fun other among => shared other (List.mem_cons_of_mem visit among))
          (calm.of_leads leads) outcome later

/-- A token that is granted while a demand is met is remembered, unless it is
rejected at once. -/
theorem Account.token_of_granted {account : Account} {demand : Demand}
    {session : Session Exchange} {draft : Draft} {token : AccessToken}
    (empty : session.token = none) (prepared : account.grantDraft = .ok draft)
    (granted : session.source.next.1.granted? = some token)
    (kept : (session.source.send draft).2.next.1.rejectsToken = false) :
    (account.meet demand session).2.token = some token := by
  obtain ⟨turns, meets⟩ := account.meets_meet demand session
  have looked : (account.meet demand session).1 ≠ .error .clockOutOfRange := by
    rw [ne_eq, account.meet_overruns_iff]
    exact fun overruns => by simp [Session.Overruns, empty] at overruns
  generalize account.meet demand session = result at meets looked
  cases meets with
  | halted fetches =>
      cases fetches with
      | unreadable => exact absurd rfl looked
      | unsent _ unprepared =>
          rw [prepared] at unprepared
          cases unprepared
      | refused _ _ nothing =>
          rw [granted] at nothing
          cases nothing
  | called fetches calls =>
      cases fetches with
      | remembered held _ _ =>
          rw [empty] at held
          cases held
      | granted _ drafted found =>
          obtain rfl := Except.ok.inj (drafted.symm.trans prepared)
          obtain rfl := Option.some.inj (found.symm.trans granted)
          cases calls with
          | unsent | answered | failed => rfl
          | rejected _ spurned =>
              rw [kept] at spurned
              cases spurned

/-! ## Margins -/

namespace Instant

theorem isSome_ofNanoseconds?_iff {nanoseconds : Int} :
    (ofNanoseconds? nanoseconds).isSome = true ↔
      earliest ≤ nanoseconds ∧ nanoseconds < latest := by
  unfold ofNanoseconds?
  split <;> simp_all

theorem earliest_le_startOf : earliest ≤ startOf 2000 := by decide

theorem startOf_le_latest : startOf 2401 ≤ latest := by decide

end Instant

namespace Sample

/-- A line on which a token is granted, and nothing is replied to any later request. -/
def granting : Exchange := ⟨[grant "t"], .closed, []⟩

theorem granted_of_granting : ∃ token, granting.next.1.granted? = some token := by
  have grants : (grant "t").granted?.isSome = true := by decide +kernel
  exact Option.isSome_iff_exists.mp grants

end Sample

namespace MerchantOptions

variable {options : MerchantOptions} {clock : Nat → Int} {exchange : Exchange}

/-- Whether a clock stays between the years 2000 and 2400. -/
def Modern (clock : Nat → Int) : Prop :=
  ∀ reading, Instant.startOf 2000 ≤ clock reading ∧ clock reading < Instant.startOf 2401

/-- Whether the calendar has room for the margin behind the year 2400.  A margin
that is too long for a session counts as none. -/
def HasRoom (options : MerchantOptions) : Prop :=
  longestMargin * 1000000 < options.margin.nanoseconds ∨
    Instant.startOf 2401 + options.margin.nanoseconds ≤ Instant.latest

theorem sessionMargin_nonneg (options : MerchantOptions) : 0 ≤ options.sessionMargin := by
  unfold sessionMargin
  split <;> omega

theorem hasRoom_iff : options.HasRoom ↔
    Instant.startOf 2401 + options.sessionMargin ≤ Instant.latest := by
  have room := Instant.startOf_le_latest
  unfold HasRoom sessionMargin
  split <;> omega

theorem representable_of_room (room : options.HasRoom) (modern : Modern clock) :
    (options.session clock exchange).Representable := by
  intro reading
  have known := Instant.earliest_le_startOf
  have positive := options.sessionMargin_nonneg
  have bounds := modern reading
  rw [hasRoom_iff] at room
  refine Instant.isSome_ofNanoseconds?_iff.mpr ?_
  change Instant.earliest ≤ clock reading + options.sessionMargin ∧
    clock reading + options.sessionMargin < Instant.latest
  omega

/-- A clock that stands still in the last moment of the year 2400. -/
def lastMoment : Nat → Int := fun _ => Instant.startOf 2401 - 1

theorem modern_lastMoment : Modern lastMoment := by
  intro reading
  have order : Instant.startOf 2000 < Instant.startOf 2401 := by decide
  unfold lastMoment
  omega

/-- Without room for the margin, a query breaks off once a token is remembered. -/
theorem overruns_of_no_room {session : Session Exchange} (roomless : ¬ options.HasRoom)
    (clock_eq : session.clock = lastMoment) (margin_eq : session.margin = options.sessionMargin)
    (present : session.token.isSome = true) : session.Overruns := by
  refine ⟨present, .inl ?_⟩
  rw [hasRoom_iff] at roomless
  rw [← Option.not_isSome_iff_eq_none, Session.judgedAt, Instant.isSome_ofNanoseconds?_iff,
    clock_eq, margin_eq]
  unfold lastMoment
  omega

/-- The second of two queries breaks off when the gateway grants a token to the
first, and the margin has no room. -/
theorem breaks_off_of_no_room {draft : Draft} (roomless : ¬ options.HasRoom)
    (prepared : options.merchant.account.grantDraft = .ok draft) :
    .error .clockOutOfRange ∈
      (options.serve [.query "int", .query "int"] lastMoment Sample.granting).1 := by
  generalize started : options.session lastMoment Sample.granting = start
  have demanded : options.merchant.demand? (.query "int") = some (.inquiry "int") := rfl
  obtain ⟨token, granted⟩ := Sample.granted_of_granting
  have held : (options.merchant.perform (.query "int") start).2.token = some token := by
    rw [Merchant.perform_of_demand demanded]
    subst started
    exact Account.token_of_granted rfl prepared granted rfl
  obtain ⟨turns, leads⟩ := options.merchant.leads_of_perform (.query "int") start
  have overruns : (options.merchant.perform (.query "int") start).2.Overruns := by
    subst started
    exact overruns_of_no_room roomless leads.clock_eq leads.margin_eq (by rw [held]; rfl)
  have second := (options.merchant.perform_overruns_iff (.query "int") _).mpr ⟨rfl, overruns⟩
  rw [serve, started, ← second]
  exact List.mem_cons_of_mem _ List.mem_cons_self

/-- Every call comes to an end, whatever the clock shows between the years 2000
and 2400, whatever is called and whatever the gateway replies, for exactly those
options that leave room for the margin, or whose account cannot ask for a token. -/
theorem always_ends_iff (options : MerchantOptions) :
    (∀ (clock : Nat → Int) (exchange : Exchange) (calls : List Call), Modern clock →
      ∀ outcome ∈ (options.serve calls clock exchange).1, isEnded outcome = true) ↔
    options.HasRoom ∨ ∃ fault, options.merchant.account.grantDraft = .error fault := by
  constructor
  · intro ends
    cases drafted : options.merchant.account.grantDraft with
    | error fault => exact .inr ⟨fault, rfl⟩
    | ok draft =>
        by_contra stuck
        have roomless : ¬ options.HasRoom := fun room => stuck (.inl room)
        have ended := ends lastMoment Sample.granting [.query "int", .query "int"]
          modern_lastMoment _ (breaks_off_of_no_room roomless drafted)
        cases ended
  · intro safe clock exchange calls modern
    have shared : ∀ visit ∈ calls.map (Visit.mk options.merchant),
        visit.merchant.account = options.merchant.account := by
      intro visit among
      obtain ⟨call, -, rfl⟩ := List.mem_map.mp among
      rfl
    refine Session.ended_of_calm _ shared ?_
    rcases safe with room | ⟨fault, unprepared⟩
    · exact .within (representable_of_room room modern)
    · exact .tokenless unprepared rfl

end MerchantOptions

/-- Settings with a margin of some 285000 years. -/
def Sample.cautious : ServiceSettings :=
  ⟨⟨8080⟩, ⟨Sample.account.credentials, Sample.account.endpoint, "https://c/?", 10,
    9000000000000, .requery⟩⟩

/-- They are accepted, and the first query comes to an end, but the second does not. -/
theorem MerchantOptions.breaks_off_on_second_query :
    Sample.cautious.check = .ok Sample.cautious ∧
      (Sample.cautious.merchantOptions.serve [.query "int", .query "int"]
        (fun _ => 1704067200000000000)
        ⟨[Sample.grant "t", .answered 200 Sample.paidIntent], .closed, []⟩).1.map isEnded =
          [true, false] := by
  refine ⟨rfl, ?_⟩
  decide +kernel

end HostedCheckout
