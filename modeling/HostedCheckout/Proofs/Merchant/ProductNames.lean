import HostedCheckout.Proofs.Json.Record
import HostedCheckout.Proofs.Merchant.Creation
import HostedCheckout.Proofs.Merchant.Modes
import HostedCheckout.Proofs.Payment.Descriptor

/-!
# Product names at the gateway

The names of a product are packed into the document that creates an intent, in two
places.  As long as the gateway repeats the one in the metadata, and has not put another
descriptor of three names in front of it, a query reports the names that were sent.
-/

namespace HostedCheckout

open Json

/-- Candidates of which each is of no use or leads to the same result lead to it, if
one does. -/
theorem findSome?_eq_of_mem {α β : Type} {choose : α → Option β} {items : List α} {result : β}
    (useful : ∃ item ∈ items, choose item = some result)
    (alike : ∀ item ∈ items, choose item = none ∨ choose item = some result) :
    items.findSome? choose = some result := by
  induction items with
  | nil =>
      obtain ⟨item, among, -⟩ := useful
      exact absurd among List.not_mem_nil
  | cons item rest ih =>
      rw [List.findSome?_cons]
      rcases alike item List.mem_cons_self with useless | chosen
      · rw [useless]
        refine ih ?_ fun other among => alike other (List.mem_cons_of_mem item among)
        obtain ⟨other, among, chosen⟩ := useful
        rcases List.mem_cons.mp among with rfl | later
        · rw [useless] at chosen
          exact absurd chosen (Option.some_ne_none _).symm
        · exact ⟨other, later, chosen⟩
      · rw [chosen]

/-! ## Intents that repeat a descriptor -/

/-- Whether the metadata of an intent repeats a descriptor, and no other one with three
names comes before it. -/
structure Intent.Repeats (intent : Intent) (packed : String) : Prop where
  metadata : intent.metadata.lookup descriptorKey = some (.string packed)
  own : ∀ text, intent.descriptor = some text →
    text = packed ∨ ∃ found, Descriptor.unpack text = .error found

/-- The names that were packed are found again. -/
theorem Intent.Repeats.productNames? {intent : Intent} {names : ProductNames}
    (repeats : intent.Repeats (Descriptor.pack names)) :
    intent.productNames? = some names.stripped := by
  have packed : (Descriptor.unpack (Descriptor.pack names)).toOption = some names.stripped :=
    toOption_eq_some_iff.mpr (Descriptor.unpack_pack names)
  have nonempty : Descriptor.pack names ≠ "" := by
    intro empty
    rw [empty] at packed
    exact absurd packed (Option.some_ne_none _).symm
  refine findSome?_eq_of_mem ⟨Descriptor.pack names, ?_, packed⟩ fun text among => ?_
  · simp [descriptors, repeats.metadata, Value.string?, nonempty]
  · simp only [descriptors, repeats.metadata, List.mem_filter, List.mem_append,
      Option.mem_toList, Option.bind_some, Value.string?, Option.some.injEq] at among
    obtain ⟨own | repeated, -⟩ := among
    · rcases repeats.own text own with rfl | ⟨found, refused⟩
      · exact .inr packed
      · exact .inl (by rw [refused]; rfl)
    · exact .inr (repeated ▸ packed)

/-- What is reported of an intent whose statuses go together. -/
theorem Intent.names_of_report {intent : Intent} {state : PaymentState}
    (reconciled : PaymentState.ofStatuses intent.status intent.attemptStatus = .ok state)
    {names : ProductNames} (found : intent.productNames? = some names) (orderId : String) :
    (intent.report orderId).productName = names.productName ∧
      (intent.report orderId).productDisplayName = names.displayName ∧
      (intent.report orderId).providerName = names.providerName := by
  simp [report, reconciled, found]

/-! ## Snapshots that repeat a descriptor -/

/-- Whether a snapshot of an intent repeats the metadata of the document that was sent,
and has no other descriptor of three names for its own. -/
structure Json.Value.Repeats (snapshot sent : Value) : Prop where
  metadata : (snapshot.given? Intent.fields "metadata").bind (·.member? "descriptor") =
    (sent.member? "metadata").bind (·.member? "descriptor")
  own : ∀ value, snapshot.given? Intent.fields "descriptor" = some value →
    value = .null ∨ some value = sent.member? "descriptor" ∨
      ∃ text found, value = .string text ∧ Descriptor.unpack text = .error found

theorem Json.Field.given_of_admits_text {name text : String} {given : Option Value}
    (admits : (Field.optional name .text).Admits (some text) given) :
    given = some (.string text) := by
  cases given with
  | none => cases admits
  | some value => cases value <;> simp_all [Field.Admits, Except.map]

theorem Json.Field.eq_of_admits_members {name : String} {members : Members}
    {held : Option Members}
    (admits : (Field.optional name .members).Admits held (some (.object members))) :
    held = some members := by
  simpa [Field.Admits, Except.map] using admits.symm

theorem Json.Value.exists_members_of_member? {value held : Value} {name : String}
    (found : value.member? name = some held) :
    ∃ members, value = .object members ∧ members.lookup name = some held := by
  cases value with
  | object members => exact ⟨members, rfl, found⟩
  | _ => cases found

/-- An intent repeats what its snapshot repeats. -/
theorem Json.Value.Repeats.intent {snapshot sent : Value} (repeats : snapshot.Repeats sent)
    {packed : String}
    (sentOwn : sent.member? "descriptor" = some (.string packed))
    (sentMetadata : (sent.member? "metadata").bind (·.member? "descriptor") =
      some (.string packed))
    {intent : Intent} (decoded : Intent.kind.ofValue snapshot = .ok intent) :
    intent.Repeats packed := by
  obtain ⟨⟨-, -, -, -, -, -, -, descriptor, metadata, -, -⟩,
    ⟨-, -, -, -, -, -, -, givenDescriptor, givenMetadata, -⟩, rfl⟩ :=
      Kind.agrees_of_record (by decide) decoded
  constructor
  · obtain ⟨value, given, repeated⟩ :=
      Option.bind_eq_some_iff.mp (repeats.metadata.trans sentMetadata)
    obtain ⟨members, rfl, found⟩ := Value.exists_members_of_member? repeated
    rw [Value.given?] at given
    rw [given] at givenMetadata
    obtain rfl := Field.eq_of_admits_members givenMetadata
    exact found
  · rintro text rfl
    rcases repeats.own _ (Field.given_of_admits_text givenDescriptor) with
      null | same | ⟨other, found, same, refused⟩
    · cases null
    · rw [sentOwn] at same
      cases same
      exact .inl rfl
    · cases same
      exact .inr ⟨found, refused⟩

namespace Merchant

/-- Product names survive the way through the gateway.  What is sent to create an intent
is a document with a descriptor in two places; and a query that is shown an intent whose
statuses go together, and that repeats the descriptor, reports the names of the request
without their delimiters. -/
theorem product_names_survive (request : PayRequest) :
    ∃ sent : Value,
      (∀ (account : Account) (session : Session Exchange) (turns : List Turn),
        (account.createIntent request session).2.source.turns = session.source.turns ++ turns →
        ∀ turn ∈ turns, ∀ token, turn.request.carries token = true →
          turn.request.method = "POST" ∧
            Value.read (Bytes.ofString turn.request.body) = .ok sent) ∧
      ((sent.member? "metadata").bind (·.member? "descriptor") =
          some (.string (Descriptor.pack request.productNames)) ∧
        sent.member? "descriptor" = some (.string (Descriptor.pack request.productNames))) ∧
      ∀ (merchant : Merchant) (intentId : String) (session : Session Exchange)
        (turns : List Turn),
        (merchant.query intentId session).2.source.turns = session.source.turns ++ turns →
        ∀ turn ∈ turns, ∀ token, turn.request.carries token = true →
        ∀ snapshot, turn.reply.value? = some snapshot → snapshot.Repeats sent →
        ∀ intent, Intent.kind.ofValue snapshot = .ok intent →
        ∀ state, PaymentState.ofStatuses intent.status intent.attemptStatus = .ok state →
          ∃ report, (merchant.query intentId session).1 = .ok report ∧
            report.productName = Descriptor.strip request.productName ∧
            report.productDisplayName = Descriptor.strip request.productDisplayName ∧
            report.providerName = Descriptor.strip request.providerName := by
  refine ⟨request.sentDocument, ?_, ⟨request.member?_metadata, request.member?_descriptor⟩, ?_⟩
  · intro account session turns taken turn among token carried
    exact Account.sends_of_creation taken among carried
  · intro merchant intentId session turns taken turn among token carried snapshot shown repeats
      intent decoded state reconciled
    rw [query_eq, Operation.map_snd, Operation.mapError_snd] at taken
    have met : (merchant.account.meet (.inquiry intentId) session).1 = .ok intent :=
      Account.meet_of_answered taken among carried shown decoded
    refine ⟨intent.report intentId, ?_, ?_⟩
    · rw [query_eq]
      exact Operation.map_fst_eq_ok_iff.mpr
        ⟨intent, Operation.mapError_fst_eq_ok_iff.mpr met, rfl⟩
    · have found := (repeats.intent request.member?_descriptor request.member?_metadata
        decoded).productNames?
      exact intent.names_of_report reconciled found intentId

end Merchant

namespace Sample

/-- The intent of the request, paid, and with another descriptor for its own. -/
def repeatingIntent : Value :=
  .object [("status", .string "SUCCEEDED"), ("descriptor", .string "ACME*TEAPOT"),
    ("metadata", .object [("descriptor", .string (Descriptor.pack request.productNames))]),
    ("latest_payment_attempt", .object [("status", .string "PAID")])]

/-- A session in which a token is granted and the intent is shown. -/
def repetition : Session Exchange :=
  session [grant "t", .answered 200 (Bytes.ofString repeatingIntent.render)]

theorem read_repeatingIntent :
    Value.read (Bytes.ofString repeatingIntent.render) = .ok repeatingIntent.reread :=
  Value.read_render (by decide +kernel)

/-- It is an intent whose statuses go together. -/
theorem exists_repeatedIntent :
    ∃ intent, Intent.kind.ofValue repeatingIntent.reread = .ok intent ∧
      PaymentState.ofStatuses intent.status intent.attemptStatus = .ok .paid := by
  have decodes : (Intent.kind.ofValue repeatingIntent.reread).toOption.any (fun intent =>
      intent.status == "SUCCEEDED" && intent.attemptStatus == "PAID") = true := by
    decide +kernel
  obtain ⟨intent, decoded, statuses⟩ := exists_of_any_toOption decodes
  simp only [Bool.and_eq_true, beq_iff_eq] at statuses
  refine ⟨intent, decoded, ?_⟩
  rw [statuses.1, statuses.2]
  rfl

/-- The metadata is repeated, and what comes before it has no names. -/
theorem repeats_repeatingIntent {sent : Value}
    (metadata : (sent.member? "metadata").bind (·.member? "descriptor") =
      some (.string (Descriptor.pack request.productNames))) :
    repeatingIntent.reread.Repeats sent := by
  have given (name : String) : repeatingIntent.reread.given? Intent.fields name =
      (repeatingIntent.member? name).map Value.reread :=
    Value.member?_reread (by decide) name
  constructor
  · rw [given, metadata]
    exact Value.member?_reread (by decide) _
  · intro value held
    rw [given] at held
    cases held
    exact .inr (.inr ⟨_, 1, rfl, by decide⟩)

end Sample

namespace Merchant

/-- A delimiter in a name is lost on the way, and all else is found again, although the
gateway has a descriptor of its own. -/
theorem product_names_survive_another :
    ∃ sent : Value,
      (∃ turn ∈ (Sample.account.createIntent Sample.request Sample.creation).2.source.turns,
        turn.request.method = "POST" ∧
          Value.read (Bytes.ofString turn.request.body) = .ok sent) ∧
      Sample.repeatingIntent.reread.Repeats sent ∧
      ∃ report, ((Sample.merchant .requery).query "int" Sample.repetition).1 = .ok report ∧
        report.productName = "teapot" ∧ report.productDisplayName = "\"tea pot\" 茶" ∧
        report.providerName = "\\" := by
  obtain ⟨sent, sends, ⟨metadata, -⟩, survives⟩ := product_names_survive Sample.request
  have repeats := Sample.repeats_repeatingIntent metadata
  refine ⟨sent, ?_, repeats, ?_⟩
  · have carries : ∃ turn ∈
        (Sample.account.createIntent Sample.request Sample.creation).2.source.turns,
          turn.request.carries "t" = true := by
      decide +kernel
    obtain ⟨turn, among, carried⟩ := carries
    exact ⟨turn, among, sends Sample.account Sample.creation _ (List.nil_append _).symm turn
      among "t" carried⟩
  · have replies : ∃ turn ∈
        ((Sample.merchant .requery).query "int" Sample.repetition).2.source.turns,
          turn.request.carries "t" = true ∧
            turn.reply = .answered 200 (Bytes.ofString Sample.repeatingIntent.render) := by
      decide +kernel
    obtain ⟨turn, among, carried, replied⟩ := replies
    have shown : turn.reply.value? = some Sample.repeatingIntent.reread := by
      simp [replied, Reply.value?, Reply.whole?, Reply.hasNoBody, guard,
        Sample.read_repeatingIntent, Except.toOption]
    obtain ⟨intent, decoded, reconciled⟩ := Sample.exists_repeatedIntent
    have stripped : Descriptor.strip "tea\ue000pot" = "teapot" ∧
        Descriptor.strip "\"tea pot\" 茶" = "\"tea pot\" 茶" ∧
        Descriptor.strip "\\" = "\\" := by
      decide
    obtain ⟨report, reported, product, display, provider⟩ :=
      survives (Sample.merchant .requery) "int" Sample.repetition _ (List.nil_append _).symm turn
        among "t" carried _ shown repeats intent decoded _ reconciled
    exact ⟨report, reported, product.trans stripped.1, display.trans stripped.2.1,
      provider.trans stripped.2.2⟩

end Merchant

end HostedCheckout
