import HostedCheckout.Proofs.Json.Coherence
import HostedCheckout.Proofs.Merchant.CheckoutLink
import HostedCheckout.Proofs.Merchant.Modes

/-!
# Replies without names

What the gateway replies is decoded as a record, and a record may be written as an array of the
values of its fields.  So a reply that is not an object is accepted exactly when it is an array
that gives the right values in the order of the fields.  The same goes for the attempt to pay
inside of an intent.
-/

namespace HostedCheckout

open Json

/-! ## Arrays for the records of the gateway -/

theorem Json.Field.admits_optional_text_iff {name text : String} {given : Option Value} :
    Field.Admits ⟨name, .optional .text, some none⟩ (some text) given ↔
      given = some (.string text) := by
  cases given with
  | none => simp [Field.Admits]
  | some value => cases value <;> simp [Field.Admits, Except.map]

/-- Two elements are what is found under two names. -/
theorem eq_pair_iff {items : List Value} {first second : String} (unlike : second ≠ first)
    {one other : Value} :
    items = [one, other] ↔ items.length ≤ 2 ∧
      ([first, second].zip items).lookup first = some one ∧
      ([first, second].zip items).lookup second = some other := by
  constructor
  · rintro rfl
    simp [lookup_cons_eq, unlike]
  · rintro ⟨short, here, there⟩
    match items, short with
    | [], _ => simp at here
    | [item], _ => simp [lookup_cons_eq, unlike] at there
    | [item, next], _ =>
        simp only [List.zip_cons_cons, lookup_cons_eq, if_true] at here there
        rw [if_neg unlike] at there
        rw [Option.some.inj here, Option.some.inj there]

/-- What is not an object is a record of two fields if and only if it is an array of two
elements, when the fields have the values for just these. -/
theorem ofValue_pair_iff {α : Type} {name : String} {first second : Field}
    {build : Row [first, second] → α} {value one other : Value} {result : α}
    (unlike : second.name ≠ first.name) (nameless : ∀ members, value ≠ .object members)
    (admits : ∀ items : Members,
      (∃ row, Row.Agrees items [first, second] row ∧ build row = result) ↔
        items.lookup first.name = some one ∧ items.lookup second.name = some other) :
    (Kind.record name [first, second] build).ofValue value = .ok result ↔
      value = .array [one, other] := by
  have distinct : Field.Distinct [first, second] := by
    simp [Field.Distinct, Ne.symm unlike]
  have fields {items : List Value} :
      (Kind.record name [first, second] build).ofValue (.array items) = .ok result ↔
        items = [one, other] := by
    rw [Kind.ofValue_record_eq_ok_iff, eq_pair_iff unlike, ← admits]
    simp only [Row.ofValue_array_eq_ok_iff distinct, and_assoc, exists_and_left]
    rfl
  rw [Kind.ofValue_nameless_eq_ok_iff nameless]
  simp only [fields, exists_eq_right]

/-- A grant that is not an object is the array of a token and its expiry. -/
theorem grantKind_ofValue_iff {value : Value} (nameless : ∀ members, value ≠ .object members)
    {token expiry : String} :
    grantKind.ofValue value = .ok (some token, some expiry) ↔
      value = .array [.string token, .string expiry] := by
  refine ofValue_pair_iff (by decide) nameless fun items => ⟨?_, fun ⟨here, there⟩ => ?_⟩
  · rintro ⟨⟨_, _, _⟩, ⟨here, there, -⟩, same⟩
    cases same
    exact ⟨Field.admits_optional_text_iff.mp here, Field.admits_optional_text_iff.mp there⟩
  · exact ⟨(some token, some expiry, ()), ⟨Field.admits_optional_text_iff.mpr here,
      Field.admits_optional_text_iff.mpr there, trivial⟩, rfl⟩

/-- A new intent that is not an object is the array of its name and its secret. -/
theorem createdKind_ofValue_iff {value : Value} (nameless : ∀ members, value ≠ .object members)
    {intent : CreatedIntent} :
    CreatedIntent.kind.ofValue value = .ok intent ↔
      value = .array [.string intent.id, .string intent.clientSecret.expose] := by
  refine ofValue_pair_iff (by decide) nameless fun items => ⟨?_, fun ⟨here, there⟩ => ?_⟩
  · rintro ⟨⟨_, _, _⟩, ⟨here, there, -⟩, rfl⟩
    exact ⟨Field.admits_text_iff.mp here, CreatedIntent.admits_secret_iff.mp there⟩
  · exact ⟨(intent.id, intent.clientSecret, ()), ⟨Field.admits_text_iff.mpr here,
      CreatedIntent.admits_secret_iff.mpr there, trivial⟩, rfl⟩

/-! ## Attempts to pay -/

/-- The status of an attempt that is written as an array. -/
def Json.Value.listedStatus? : Value → Option String
  | .array [] => some ""
  | .array [.string status] => some status
  | _ => none

/-- An attempt that is not an object is the array of its status, or an empty one. -/
theorem attemptKind_decode_iff {value : Value} (nameless : ∀ members, value ≠ .object members)
    {status : String} :
    attemptKind.decode value = .ok status ↔ value.listedStatus? = some status := by
  cases value with
  | array items =>
      match items with
      | [] =>
          have decoded : attemptKind.decode (.array []) = .ok "" := rfl
          rw [decoded, Except.ok.injEq, Value.listedStatus?, Option.some.injEq]
      | [.string text] =>
          have decoded : attemptKind.decode (.array [.string text]) = .ok text := rfl
          rw [decoded, Except.ok.injEq, Value.listedStatus?, Option.some.injEq]
      | [.null] | [.boolean _] | [.number _] | [.array _] | [.object _] =>
          exact iff_of_false (by rintro ⟨⟩) (by simp [Value.listedStatus?])
      | _ :: _ :: _ =>
          refine iff_of_false (fun decoded => ?_) (by simp [Value.listedStatus?])
          obtain ⟨row, accepted, -⟩ :=
            Kind.ofValue_record_eq_ok_iff.mp (Kind.ofValue_eq_ok_iff.mpr decoded)
          have short := (Row.ofValue_array_eq_ok_iff (by decide)).mp accepted
          simp at short
  | object members => exact absurd rfl (nameless members)
  | null | boolean | number | string =>
      exact iff_of_false (by rintro ⟨⟩) (by simp [Value.listedStatus?])

/-- The members of an intent, with an attempt among them. -/
def attempting (before after : Members) (attempt : Value) : Members :=
  before ++ ("latest_payment_attempt", attempt) :: after

section Attempts

variable {before after : Members} {attempt : Value}

theorem single_attempting_iff :
    Members.Single Intent.fields (attempting before after attempt) ↔
      Members.Single Intent.fields (attempting before after .null) := by
  simp only [Members.Single, attempting, List.map_append, List.map_cons]

theorem lookup_attempting_of_ne {name : String} (unlike : name ≠ "latest_payment_attempt") :
    (attempting before after attempt).lookup name =
      (attempting before after .null).lookup name := by
  simp only [attempting, List.lookup_append, lookup_cons_eq, if_neg unlike]

theorem lookup_attempting
    (single : Members.Single Intent.fields (attempting before after attempt)) :
    (attempting before after attempt).lookup "latest_payment_attempt" = some attempt := by
  have once : ((attempting before after attempt).map Prod.fst).count "latest_payment_attempt" ≤ 1 :=
    single (.optional "latest_payment_attempt" attemptKind) (by simp)
  rw [attempting, List.map_append, List.count_append, List.map_cons, List.count_cons_self] at once
  rw [attempting, List.lookup_append, lookup_eq_none_of_count (by omega), lookup_cons_eq,
    if_pos rfl, Option.none_or]

/-- Another attempt changes no other field of an intent. -/
theorem agrees_attempting_iff
    (single : Members.Single Intent.fields (attempting before after attempt))
    {id status currency requestId order : String} {secret descriptor held : Option String}
    {amount : Binary64} {metadata : Option Members} :
    Row.Agrees (attempting before after attempt) Intent.fields
        (id, secret, status, amount, currency, requestId, order, descriptor, metadata, held, ()) ↔
      Field.Admits (.optional "latest_payment_attempt" attemptKind) held (some attempt) ∧
        Row.Agrees (attempting before after .null) Intent.fields
          (id, secret, status, amount, currency, requestId, order, descriptor, metadata, none,
            ()) := by
  have given := lookup_attempting single
  have givenNull := lookup_attempting (single_attempting_iff.mp single)
  simp only [Row.Agrees, Field.textOrEmpty, Field.text, Field.optional, given, givenNull,
    @lookup_attempting_of_ne before after attempt, ne_eq, String.reduceEq, not_false_eq_true]
  constructor
  · rintro ⟨hasId, hasSecret, hasStatus, hasAmount, hasCurrency, hasRequest, hasOrder,
      hasDescriptor, hasMetadata, hasAttempt, -⟩
    exact ⟨hasAttempt, hasId, hasSecret, hasStatus, hasAmount, hasCurrency, hasRequest, hasOrder,
      hasDescriptor, hasMetadata, rfl, trivial⟩
  · rintro ⟨hasAttempt, hasId, hasSecret, hasStatus, hasAmount, hasCurrency, hasRequest, hasOrder,
      hasDescriptor, hasMetadata, -, -⟩
    exact ⟨hasId, hasSecret, hasStatus, hasAmount, hasCurrency, hasRequest, hasOrder,
      hasDescriptor, hasMetadata, hasAttempt, trivial⟩

theorem admits_attempt_iff (given : attempt ≠ .null) {held : Option String} :
    Field.Admits (.optional "latest_payment_attempt" attemptKind) held (some attempt) ↔
      ∃ status, attemptKind.decode attempt = .ok status ∧ held = some status := by
  have decoded : (Kind.optional attemptKind).decode attempt =
      (attemptKind.decode attempt).map some := by
    cases attempt with
    | null => exact absurd rfl given
    | _ => rfl
  change (Kind.optional attemptKind).decode attempt = .ok held ↔ _
  rw [decoded]
  cases attemptKind.decode attempt with
  | error => simp [Except.map]
  | ok status => simp [Except.map, eq_comm]

/-- The attempt inside of an intent is decoded on its own. -/
theorem Intent.ofValue_attempting_iff (given : attempt ≠ .null) {intent : Intent} :
    Intent.kind.ofValue (.object (attempting before after attempt)) = .ok intent ↔
      ∃ status unattempted, attemptKind.decode attempt = .ok status ∧
        Intent.kind.ofValue (.object (attempting before after .null)) = .ok unattempted ∧
        intent = { unattempted with attemptStatus := status } := by
  have distinct : Field.Distinct Intent.fields := by decide
  simp only [Kind.ofValue_object_eq_ok_iff distinct]
  constructor
  · rintro ⟨single, ⟨id, secret, status, amount, currency, requestId, order, descriptor, metadata,
      held, ⟨⟩⟩, agrees, rfl⟩
    obtain ⟨admits, agreesNull⟩ := (agrees_attempting_iff single).mp agrees
    obtain ⟨attempted, decoded, rfl⟩ := (admits_attempt_iff given).mp admits
    exact ⟨attempted, _, decoded, ⟨single_attempting_iff.mp single, _, agreesNull, rfl⟩, rfl⟩
  · rintro ⟨attempted, _, decoded, ⟨singleNull, ⟨id, secret, status, amount, currency, requestId,
      order, descriptor, metadata, held, ⟨⟩⟩, agreesNull, rfl⟩, rfl⟩
    have single : Members.Single Intent.fields (attempting before after attempt) :=
      single_attempting_iff.mpr singleNull
    have admits := (admits_attempt_iff given).mpr ⟨attempted, decoded, rfl⟩
    -- What is known of the attempt that is `null` does not matter.
    have unattempted := ((agrees_attempting_iff singleNull).mp agreesNull).2
    exact ⟨single, _, (agrees_attempting_iff single).mpr ⟨admits, unattempted⟩, rfl⟩

end Attempts

/-! ## Replies -/

theorem Session.ask_fst_eq_ok_iff {Source Error Result : Type}
    {action : Source → Except Error Result × Source} {session : Session Source} {result : Result} :
    (Session.ask action session).1 = .ok result ↔ (action session.source).1 = .ok result := by
  simp only [Session.ask]
  cases (action session.source).1 <;> simp

/-- A reply has a value when it is whole, reports no failure, and has the value in its body. -/
theorem Reply.exists_whole?_of_value? {reply : Reply} {value : Value}
    (shown : reply.value? = some value) :
    ∃ status body, reply.whole? = some (status, body) ∧ reply.status? = some status ∧
      Value.read body = .ok value := by
  simp only [value?, Option.bind_eq_bind, Option.bind_eq_some_iff, Option.guard_eq_some'] at shown
  obtain ⟨⟨status, body⟩, whole, -, -, known⟩ := shown
  refine ⟨status, body, whole, ?_, toOption_eq_some_iff.mp known⟩
  cases reply with
  | answered => cases whole; rfl
  | _ => cases whole

theorem grantKind_readText_iff {text : Bytes} {value : Value}
    (document : Value.read text = .ok value) (nameless : ∀ members, value ≠ .object members)
    {token expiry : String} :
    grantKind.readText text = .ok (some token, some expiry) ↔
      value = .array [.string token, .string expiry] := by
  rw [Kind.readText_record_eq_ok_iff _ document nameless]
  · exact grantKind_ofValue_iff nameless
  · simp [Kind.coherent_optional_text]

namespace Account

variable {account : Account}

/-- A reply that is not an object grants a token if and only if it reports success and is the
array of the token and its expiry. -/
theorem grant_eq_ok_iff {exchange : Exchange} {draft : Draft} {value : Value}
    (nameless : ∀ members, value ≠ .object members) (prepared : account.grantDraft = .ok draft)
    (shown : exchange.next.1.value? = some value) {token : AccessToken} :
    (account.grant exchange).1 = .ok token ↔
      (∃ status, exchange.next.1.status? = some status ∧ 200 ≤ status ∧ status < 300) ∧
        value = .array [.string token.secret.expose, .string token.rawExpiry] ∧
        (token.secret.expose ≠ "" ∧ token.rawExpiry ≠ "") ∧
        AccessToken.parseExpiry token.rawExpiry = .ok token.expiresAt := by
  have granted : (account.grant exchange).1.toOption = exchange.next.1.granted? :=
    (grant_of_prepared prepared (Prod.mk.eta (p := account.grant exchange)).symm).2
  obtain ⟨status, body, whole, known, document⟩ := Reply.exists_whole?_of_value? shown
  have sameRow : grantKind.readText body = .ok (some token.secret.expose, some token.rawExpiry) ↔
      value = .array [.string token.secret.expose, .string token.rawExpiry] :=
    grantKind_readText_iff document nameless
  rw [← toOption_eq_some_iff, granted, Reply.granted?_eq_some_iff]
  constructor
  · rintro ⟨_, _, again, success, read, rest⟩
    obtain ⟨rfl, rfl⟩ := Prod.mk.inj (Option.some.inj (whole.symm.trans again))
    exact ⟨⟨status, known, success⟩, sameRow.mp read, rest⟩
  · rintro ⟨⟨other, again, success⟩, same, rest⟩
    obtain rfl := Option.some.inj (known.symm.trans again)
    exact ⟨status, body, whole, success, sameRow.mpr same, rest⟩

/-- Whether what is demanded of the gateway is shown: a token is at hand or fetched, the request
is sent with it, and the reply has a value. -/
def IsShown (account : Account) (demand : Demand) (session : Session Exchange) (value : Value) :
    Prop :=
  ∃ token middle draft, session.obtainToken account.grant = (.ok token, middle) ∧
    account.demandDraft demand token = .ok draft ∧ middle.source.next.1.value? = some value

/-- A demand is met with the document that is decoded from what is shown. -/
theorem meet_eq_ok_iff {demand : Demand} {session : Session Exchange} {value : Value}
    (shown : account.IsShown demand session value) {document : demand.kind.Carrier} :
    (account.meet demand session).1 = .ok document ↔ demand.kind.ofValue value = .ok document := by
  obtain ⟨token, middle, draft, obtained, drafted, seen⟩ := shown
  unfold meet callWithToken
  rw [Operation.bind_of_ok obtained, Session.forgetRejected_fst]
  refine Session.ask_fst_eq_ok_iff.trans ((callFor_eq_ok_iff drafted).trans ?_)
  simp only [seen, Option.some.injEq, exists_eq_left']

/-- What is accepted of a value that is not an object, wherever the gateway gives it.  As a
reply to the request for a token, it must be the array of the token and its expiry; as a new
intent, the array of its name and its secret; as an intent that is looked up, an array that is
not too long, and whose elements are accepted under the names of the fields.  As the attempt
inside of an intent, it must be `null`, the array of a status, or an empty array. -/
theorem nameless_accepted_iff {value : Value} (nameless : ∀ members, value ≠ .object members)
    (account : Account) :
    (∀ exchange draft, account.grantDraft = .ok draft → exchange.next.1.value? = some value →
      ∀ token, (account.grant exchange).1 = .ok token ↔
        (∃ status, exchange.next.1.status? = some status ∧ 200 ≤ status ∧ status < 300) ∧
        value = .array [.string token.secret.expose, .string token.rawExpiry] ∧
        (token.secret.expose ≠ "" ∧ token.rawExpiry ≠ "") ∧
        AccessToken.parseExpiry token.rawExpiry = .ok token.expiresAt) ∧
    (∀ request session, account.IsShown (.creation request) session value →
      ∀ intent, (account.createIntent request session).1 = .ok intent ↔
        value = .array [.string intent.id, .string intent.clientSecret.expose]) ∧
    (∀ id session, account.IsShown (.inquiry id) session value →
      ∀ intent, (account.lookUpIntent id session).1 = .ok intent ↔
        ∃ items, value = .array items ∧ items.length ≤ Intent.fields.length ∧
          Intent.kind.ofValue (.object ((Intent.fields.map Field.name).zip items)) = .ok intent) ∧
    ∀ before after, value ≠ .null →
      ∀ intent, Intent.kind.ofValue (.object (attempting before after value)) = .ok intent ↔
        ∃ status unattempted, value.listedStatus? = some status ∧
          Intent.kind.ofValue (.object (attempting before after .null)) = .ok unattempted ∧
          intent = { unattempted with attemptStatus := status } := by
  refine ⟨fun exchange draft prepared shown token => grant_eq_ok_iff nameless prepared shown,
    fun request session shown intent => ?_, fun id session shown intent => ?_,
    fun before after given intent => ?_⟩
  · exact Operation.mapError_fst_eq_ok_iff.trans
      ((meet_eq_ok_iff shown).trans (createdKind_ofValue_iff nameless))
  · refine (meet_eq_ok_iff shown).trans ((Kind.ofValue_nameless_eq_ok_iff nameless).trans ?_)
    have distinct : Field.Distinct Intent.fields := by decide
    simp only [Kind.ofValue_array_eq_ok_iff distinct]
  · rw [Intent.ofValue_attempting_iff given]
    simp only [attemptKind_decode_iff nameless]

end Account

namespace Sample

/-- A name, and a text that is a secret or a time. -/
def pair : Value := .array [.string "int", .string "2030-01-01T00:00:00+0000"]

theorem read_pair : Value.read (Bytes.ofString pair.render) = .ok pair :=
  Value.read_render (by decide)

/-- A gateway that replies with the same array to everything. -/
def pairing : Exchange := ⟨[], .answered 200 (Bytes.ofString pair.render), []⟩

/-- A session with that gateway. -/
def pairingSession : Session Exchange := { session [] with source := pairing }

theorem value?_pairing : pairing.next.1.value? = some pair := by
  simp [pairing, Exchange.next, Reply.value?, Reply.whole?, Reply.hasNoBody, guard, read_pair,
    Except.toOption]

/-- With the array as its token, the session is shown the array again for a new intent. -/
theorem isShown_pair : account.IsShown (.creation request) pairingSession pair := by
  have obtains : (pairingSession.obtainToken account.grant).1.toOption = some "int" := by
    decide +kernel
  have left : (pairingSession.obtainToken account.grant).2.source.next.1 = pairing.next.1 := by
    decide +kernel
  have sendable : (account.demandDraft (.creation request) "int").toOption.isSome = true := by
    decide +kernel
  obtain ⟨draft, drafted⟩ := Option.isSome_iff_exists.mp sendable
  rcases obtained : pairingSession.obtainToken account.grant with ⟨outcome, middle⟩
  rw [obtained] at obtains left
  refine ⟨"int", middle, draft, ?_, toOption_eq_some_iff.mp drafted, left ▸ value?_pairing⟩
  rw [obtained, ← toOption_eq_some_iff.mp obtains]

end Sample

namespace Account

/-- Such an array is a token with its expiry, and then a new intent with its secret. -/
theorem nameless_accepted_of_pair :
    (∀ members, Sample.pair ≠ .object members) ∧
    (Sample.account.grant Sample.pairing).1 =
      .ok ⟨⟨"int"⟩, "2030-01-01T00:00:00+0000", ⟨1893456000, 0⟩⟩ ∧
    (Sample.account.createIntent Sample.request Sample.pairingSession).1 =
      .ok ⟨"int", ⟨"2030-01-01T00:00:00+0000"⟩⟩ := by
  have nameless : ∀ members, Sample.pair ≠ .object members := by simp [Sample.pair]
  obtain ⟨grants, creates, -⟩ := nameless_accepted_iff nameless Sample.account
  refine ⟨nameless, ?_, (creates _ _ Sample.isShown_pair _).mpr rfl⟩
  have sendable : Sample.account.grantDraft.toOption.isSome = true := by decide +kernel
  obtain ⟨draft, prepared⟩ := Option.isSome_iff_exists.mp sendable
  have parsed : (AccessToken.parseExpiry "2030-01-01T00:00:00+0000").toOption =
      some ⟨1893456000, 0⟩ := by
    decide +kernel
  refine (grants _ draft (toOption_eq_some_iff.mp prepared) Sample.value?_pairing _).mpr ?_
  exact ⟨⟨200, rfl, by decide, by decide⟩, rfl, by decide, toOption_eq_some_iff.mp parsed⟩

end Account

namespace Sample

/-- A grant without names. -/
def listedGrant : Bytes := Bytes.ofString "[\"t\",\"2030-01-01T00:00:00+0000\"]"

/-- An intent without names, which has an attempt without names. -/
def listedIntent : Bytes :=
  Bytes.ofString "[\"int\",null,\"SUCCEEDED\",12.5,\"EUR\",\"\",\"\",null,null,[\"PAID\"]]"

/-- A notification whose attempt has no names. -/
def listedAttempt : Bytes :=
  Bytes.ofString
    "\x7b\"id\":\"int\",\"status\":\"SUCCEEDED\",\"latest_payment_attempt\":[\"RECEIVED\"]\x7d"

end Sample

namespace Merchant

/-- Two arrays are enough for a payment to be reported as paid, and an array for an attempt is
believed. -/
theorem paid_of_arrays :
    (Value.read Sample.listedGrant).toOption.any (!Sample.isObject ·) = true ∧
    (Value.read Sample.listedIntent).toOption.any (!Sample.isObject ·) = true ∧
    ((Sample.merchant .requery).query "int" (Sample.session
        [.answered 200 Sample.listedGrant, .answered 200 Sample.listedIntent])).1.toOption.any
      (·.state == .paid) = true ∧
    ((Sample.merchant .trustPayload).notify Sample.listedAttempt ""
        (Sample.session [])).1.toOption.any (·.state == .created) = true := by
  decide +kernel

end Merchant

end HostedCheckout
