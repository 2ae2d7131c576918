import HostedCheckout.Gateway.Account
import Mathlib.Data.Option.Basic

/-!
# Turns with the gateway

Sending a request adds one turn, and what was understood is a function of the
reply in it.  A turn either asked for a token or carried one: a request for a
token carries none, and any other carries exactly the token that it was made
with.
-/

namespace HostedCheckout

open Json

theorem toOption_eq_some_iff {ε α : Type} {result : Except ε α} {value : α} :
    result.toOption = some value ↔ result = .ok value := by
  cases result <;> simp [Except.toOption]

/-- The turn that sending a request takes. -/
def Exchange.turn (draft : Draft) (exchange : Exchange) : Turn :=
  ⟨draft.request, exchange.next.1⟩

/-- Whether a request carries a token. -/
def Request.carries (request : Request) (token : String) : Bool :=
  request.headers.contains ("authorization", s!"Bearer {token}")

theorem Request.carries_iff {request : Request} {token : String} :
    request.carries token = true ↔
      ("authorization", s!"Bearer {token}") ∈ request.headers := by
  simp [carries]

namespace Draft

theorem takeCredentials_eq_some {url : Url} {written : String}
    (taken : (takeCredentials url).1 = some written) :
    ∃ encoded : String, written = s!"Basic {encoded}" := by
  unfold takeCredentials at taken
  split at taken
  · contradiction
  · dsimp only at taken
    generalize (if _ = "" then none else _ : Option String) = password at taken
    split at taken
    · contradiction
    · rw [apply_ite Prod.fst] at taken
      split at taken
      · contradiction
      · exact ⟨_, (Option.some.inj taken).symm⟩

/-- What a request is made of when it has been prepared: the URL that its address is
read as, and the credentials from there before its own authorization. -/
theorem request_of_prepare {method address body : String} {authorization : Option String}
    {headers : List (String × String)} {draft : Draft}
    (prepared : prepare method address authorization headers body = .ok draft) :
    ∃ url, Url.parse? address = some url ∧
      draft.request = ⟨method, (takeCredentials url).2.textWithoutFragment,
        ((takeCredentials url).1.toList ++ authorization.toList).map (("authorization", ·)) ++
          headers, body⟩ := by
  unfold prepare at prepared
  split at prepared
  · contradiction
  · rename_i url read
    split at prepared
    · contradiction
    · simp only at prepared
      split at prepared
      · contradiction
      · split at prepared
        · contradiction
        · cases prepared
          exact ⟨url, read, rfl⟩

/-- The headers of a request are what it was given, after the credentials in
its address. -/
theorem headers_of_prepare {method address body : String} {authorization : Option String}
    {headers : List (String × String)} {draft : Draft}
    (prepared : prepare method address authorization headers body = .ok draft) :
    ∃ basic : Option String,
      (∀ written ∈ basic, ∃ encoded : String, written = s!"Basic {encoded}") ∧
        draft.request.headers =
          (basic.toList ++ authorization.toList).map (("authorization", ·)) ++ headers := by
  obtain ⟨url, -, same⟩ := request_of_prepare prepared
  refine ⟨(takeCredentials url).1, fun _ taken => takeCredentials_eq_some taken, ?_⟩
  rw [same]

end Draft

theorem bearer_injective {first second : String}
    (same : s!"Bearer {first}" = s!"Bearer {second}") : first = second := by
  change "Bearer " ++ first = "Bearer " ++ second at same
  have lists := congrArg String.toList same
  rw [String.toList_append, String.toList_append, List.append_cancel_left_eq] at lists
  exact String.toList_injective lists

theorem bearer_ne_basic (token encoded : String) : s!"Bearer {token}" ≠ s!"Basic {encoded}" := by
  intro same
  change "Bearer " ++ token = "Basic " ++ encoded at same
  have lists := congrArg String.toList same
  simp at lists

namespace Account

/-- A request for a token carries none. -/
theorem carries_grantDraft {account : Account} {draft : Draft}
    (prepared : account.grantDraft = .ok draft) (token : String) :
    draft.request.carries token = false := by
  obtain ⟨basic, isBasic, headers⟩ := Draft.headers_of_prepare prepared
  rw [Bool.eq_false_iff, ne_eq, Request.carries_iff, headers]
  intro carried
  rcases List.mem_append.mp carried with credentials | given
  · simp only [Option.toList_none, List.append_nil, List.mem_map, Option.mem_toList] at credentials
    obtain ⟨written, taken, same⟩ := credentials
    obtain ⟨encoded, rfl⟩ := isBasic written taken
    exact bearer_ne_basic token encoded (congrArg Prod.snd same).symm
  · simp [contentType] at given

/-- Any other request carries the token that it was made with, and no other. -/
theorem carries_callDraft {account : Account} {method path token : String}
    {document : Option Value} {draft : Draft}
    (prepared : account.callDraft method path token document = .ok draft) (other : String) :
    draft.request.carries other = true ↔ other = token := by
  obtain ⟨basic, isBasic, headers⟩ := Draft.headers_of_prepare prepared
  rw [Request.carries_iff, headers]
  constructor
  · intro carried
    rcases List.mem_append.mp carried with credentials | given
    · simp only [List.mem_map, List.mem_append, Option.mem_toList] at credentials
      obtain ⟨written, taken | taken, same⟩ := credentials
      · obtain ⟨encoded, rfl⟩ := isBasic written taken
        exact absurd (congrArg Prod.snd same).symm (bearer_ne_basic other encoded)
      · obtain rfl : s!"Bearer {token}" = written := Option.some.inj taken
        exact (bearer_injective (congrArg Prod.snd same)).symm
    · simp [contentType] at given
  · rintro rfl
    simp

end Account

/-! ## What a reply says -/

namespace Reply

/-- The token that a reply grants: its status is from 200 to 299, and its
document has a token and an expiry, both not empty and the latter a timestamp. -/
def granted? (reply : Reply) : Option AccessToken := do
  let (status, body) ← reply.whole?
  guard (200 ≤ status ∧ status < 300)
  let (some token, some rawExpiry) ← (grantKind.readText body).toOption | none
  guard (token ≠ "" ∧ rawExpiry ≠ "")
  let expiresAt ← (AccessToken.parseExpiry rawExpiry).toOption
  return ⟨⟨token⟩, rawExpiry, expiresAt⟩

/-- The value in a reply that does not report an error. -/
def value? (reply : Reply) : Option Value := do
  let (status, body) ← reply.whole?
  guard (status < 400)
  (Value.read body).toOption

/-- Whether a reply rejects the token of the request, in a body that is JSON. -/
def rejectsToken (reply : Reply) : Bool :=
  reply.whole?.any fun answer => answer.1 == 401 && (Value.read answer.2).isOk

theorem toOption_read_nil : (Value.read []).toOption = none := rfl

/-- A value comes from a whole answer whose body says what it is. -/
theorem value?_eq_some {reply : Reply} {value : Value} (read : reply.value? = some value) :
    ∃ status body, reply = .answered status body ∧ status < 400 ∧ Value.read body = .ok value := by
  simp only [value?, Option.bind_eq_bind, Option.bind_eq_some_iff, Option.guard_eq_some'] at read
  obtain ⟨⟨status, body⟩, whole, _, accepted, known⟩ := read
  cases reply with
  | answered status octets =>
      cases whole
      split at known
      · rw [toOption_read_nil] at known
        exact absurd known (Option.some_ne_none _).symm
      · exact ⟨status, octets, rfl, accepted, toOption_eq_some_iff.mp known⟩
  | _ => exact absurd whole (Option.some_ne_none _).symm

/-- A reply grants a token exactly when it reports success, and its document has
a token and an expiry that is a timestamp. -/
theorem granted?_eq_some_iff {reply : Reply} {token : AccessToken} :
    reply.granted? = some token ↔
      ∃ status body, reply.whole? = some (status, body) ∧ (200 ≤ status ∧ status < 300) ∧
        grantKind.readText body = .ok (some token.secret.expose, some token.rawExpiry) ∧
        (token.secret.expose ≠ "" ∧ token.rawExpiry ≠ "") ∧
        AccessToken.parseExpiry token.rawExpiry = .ok token.expiresAt := by
  constructor
  · intro granted
    simp only [granted?, Option.bind_eq_bind, Option.bind_eq_some_iff, Option.guard_eq_some',
      Option.pure_def] at granted
    obtain ⟨⟨status, body⟩, whole, _, success, row, document, rest⟩ := granted
    rcases row with ⟨_ | secret, _ | rawExpiry⟩
    · exact absurd rest (Option.some_ne_none _).symm
    · exact absurd rest (Option.some_ne_none _).symm
    · exact absurd rest (Option.some_ne_none _).symm
    · simp only [Option.bind_eq_some_iff, Option.guard_eq_some', toOption_eq_some_iff] at rest
      obtain ⟨_, given, expiresAt, parsed, same⟩ := rest
      cases same
      exact ⟨status, body, whole, success, toOption_eq_some_iff.mp document, given, parsed⟩
  · rintro ⟨status, body, whole, success, document, given, parsed⟩
    simp only [granted?, Option.bind_eq_bind, Option.bind_eq_some_iff, Option.guard_eq_some',
      Option.pure_def]
    refine ⟨(status, body), whole, (), success, _, toOption_eq_some_iff.mpr document, ?_⟩
    simp only [Option.bind_eq_some_iff, Option.guard_eq_some', toOption_eq_some_iff]
    exact ⟨(), given, token.expiresAt, parsed, rfl⟩

/-- A reply with a value does not reject anything. -/
theorem rejectsToken_of_value? {reply : Reply} {value : Value} (read : reply.value? = some value) :
    reply.rejectsToken = false := by
  obtain ⟨status, body, rfl, accepted, -⟩ := value?_eq_some read
  have otherStatus : status ≠ 401 := by omega
  simp [rejectsToken, whole?, otherStatus]

end Reply

namespace Account

/-- A token is read from exactly the answers that grant one. -/
theorem toOption_readGrant {reply : Reply} {status : Nat} {body : Bytes}
    (whole : reply.whole? = some (status, body)) :
    (readGrant status body).toOption = reply.granted? := by
  simp only [Reply.granted?, whole, Option.bind_eq_bind, Option.bind_some]
  unfold readGrant
  by_cases success : 200 ≤ status ∧ status < 300
  · have accepted : ¬(status < 200 ∨ 300 ≤ status) := by omega
    rw [if_neg accepted]
    cases document : grantKind.readText body with
    | error => simp [success, guard, Except.toOption]
    | ok row =>
        rcases row with ⟨_ | token, _ | expiry⟩ <;>
          simp only [success, guard, Except.toOption, and_self, if_true, Option.bind_some,
            Option.pure_def]
        by_cases missing : token = "" ∨ expiry = ""
        · have refused : ¬(token ≠ "" ∧ expiry ≠ "") := fun given => missing.elim given.1 given.2
          rw [if_pos missing, if_neg refused]
          rfl
        · have given : token ≠ "" ∧ expiry ≠ "" := not_or.mp missing
          rw [if_neg missing, if_pos given]
          unfold AccessToken.ofGrant
          cases AccessToken.parseExpiry expiry <;> rfl
  · have rejected : status < 200 ∨ 300 ≤ status := by omega
    rw [if_pos rejected, guard, if_neg success]
    rfl

/-- What asking for a token does to the line, and how it ends. -/
theorem grant_of_prepared {account : Account} {draft : Draft}
    (prepared : account.grantDraft = .ok draft) {exchange source : Exchange}
    {answer : Except GatewayError AccessToken} (asked : account.grant exchange = (answer, source)) :
    source = (exchange.send draft).2 ∧ answer.toOption = exchange.next.1.granted? := by
  simp only [grant, prepared] at asked
  obtain ⟨rfl, rfl⟩ := Prod.mk.inj asked
  refine ⟨rfl, ?_⟩
  cases whole : exchange.next.1.whole? with
  | none =>
      have unknown : exchange.next.1.granted? = none := by simp [Reply.granted?, whole]
      rw [unknown]
      cases known : exchange.next.1.status? <;>
        simp [Exchange.send, Exchange.outcome, whole, known, Except.toOption]
  | some answer =>
      rcases answer with ⟨status, body⟩
      simp only [Exchange.send, Exchange.outcome, whole]
      exact toOption_readGrant whole

theorem grant_of_unprepared {account : Account} {fault : TransportFault}
    (unprepared : account.grantDraft = .error fault) (exchange : Exchange) :
    account.grant exchange =
      (.error (.tokenUnavailable "login request failed" (.transport fault)), exchange) := by
  simp only [grant, unprepared]

/-- A value is read from exactly the answers that have one. -/
theorem toOption_readAnswer {reply : Reply} {status : Nat} {body : Bytes}
    (whole : reply.whole? = some (status, body)) :
    (readAnswer status body).toOption = reply.value? := by
  simp only [Reply.value?, whole, Option.bind_eq_bind, Option.bind_some, readAnswer]
  by_cases failed : 400 ≤ status
  · have refused : ¬ status < 400 := by omega
    rw [guard, if_neg refused]
    cases Value.read body <;> simp [failed, Except.toOption]
  · have accepted : status < 400 := by omega
    rw [guard, if_pos accepted]
    cases Value.read body <;> simp [failed, Except.toOption]

/-- Only a document with status 401 is read as the rejection of a token. -/
theorem readAnswer_unauthorized_iff {status : Nat} {body : Bytes} :
    (∃ error, readAnswer status body = .error error ∧ error.isUnauthorized = true) ↔
      status = 401 ∧ (Value.read body).isOk = true := by
  unfold readAnswer
  cases Value.read body with
  | error => simp [GatewayError.isUnauthorized, Except.isOk, Except.toBool]
  | ok value =>
      by_cases failed : 400 ≤ status
      · simp [failed, GatewayError.isUnauthorized, Except.isOk, Except.toBool]
      · have otherStatus : status ≠ 401 := by omega
        simp [failed, otherStatus]

section Calls

variable {account : Account} {method path token : String} {document : Option Value}
  {kind : Kind} {exchange : Exchange}

theorem callFor_of_unprepared {fault : TransportFault}
    (unprepared : account.callDraft method path token document = .error fault) :
    account.callFor kind method path token document exchange =
      (.error (.transport fault), exchange) := by
  simp only [callFor, call, unprepared]

variable {draft : Draft} (prepared : account.callDraft method path token document = .ok draft)
include prepared

/-- What a call does to the line. -/
theorem callFor_snd :
    (account.callFor kind method path token document exchange).2 = (exchange.send draft).2 := by
  simp only [callFor, call, prepared]

theorem call_fst_of_whole {status : Nat} {body : Bytes}
    (whole : exchange.next.1.whole? = some (status, body)) :
    (account.call method path token document exchange).1 = readAnswer status body := by
  simp only [call, prepared, Exchange.send, Exchange.outcome, whole]

theorem call_fst_of_broken (broken : exchange.next.1.whole? = none) :
    ∃ fault, (account.call method path token document exchange).1 = .error (.transport fault) := by
  simp only [call, prepared, Exchange.send, Exchange.outcome, broken]
  cases exchange.next.1.status? <;> exact ⟨_, rfl⟩

/-- A call ends with the document in the reply. -/
theorem callFor_eq_ok_iff {decoded : kind.Carrier} :
    (account.callFor kind method path token document exchange).1 = .ok decoded ↔
      ∃ value, exchange.next.1.value? = some value ∧ kind.ofValue value = .ok decoded := by
  have answered : (account.call method path token document exchange).1.toOption =
      exchange.next.1.value? := by
    cases whole : exchange.next.1.whole? with
    | none =>
        obtain ⟨fault, broken⟩ := call_fst_of_broken prepared whole
        simp [broken, Reply.value?, whole, Except.toOption]
    | some answer =>
        rw [call_fst_of_whole prepared whole]
        exact toOption_readAnswer whole
  rw [← answered]
  simp only [callFor]
  cases (account.call method path token document exchange).1 with
  | error => simp [Except.toOption]
  | ok value => cases decodedEq : kind.ofValue value <;> simp [decodedEq, Except.toOption]

/-- A call ends in the rejection of its token exactly when the reply is one. -/
theorem callFor_unauthorized_iff :
    (∃ error, (account.callFor kind method path token document exchange).1 = .error error ∧
        error.isUnauthorized = true) ↔ exchange.next.1.rejectsToken = true := by
  have rejected : (∃ error, (account.call method path token document exchange).1 = .error error ∧
        error.isUnauthorized = true) ↔ exchange.next.1.rejectsToken = true := by
    cases whole : exchange.next.1.whole? with
    | none =>
        obtain ⟨fault, broken⟩ := call_fst_of_broken prepared whole
        simp [broken, Reply.rejectsToken, whole, GatewayError.isUnauthorized]
    | some answer =>
        rw [call_fst_of_whole prepared whole, readAnswer_unauthorized_iff]
        simp [Reply.rejectsToken, whole]
  rw [← rejected]
  simp only [callFor]
  cases (account.call method path token document exchange).1 with
  | error => simp
  | ok value =>
      cases decodedEq : kind.ofValue value <;> simp [decodedEq, GatewayError.isUnauthorized]

end Calls

end Account

end HostedCheckout
