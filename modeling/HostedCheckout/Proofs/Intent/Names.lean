import HostedCheckout.Intent.Outcome
import HostedCheckout.Proofs.Payment.Descriptor

/-!
# What descriptors tell of an intent

Of the descriptors of an intent nothing is reported but the names of the product, and all
three names come from one text: from the first of the descriptor and the string in the
metadata that has exactly two delimiters.  An intent whose statuses do not go together is
reported without names, price and currency, whatever it says of them.
-/

namespace HostedCheckout

open Json

namespace Descriptor

/-- Whether a text has as many delimiters as three names need. -/
def IsPacked (text : String) : Prop := text.toList.count delimiter = 2

instance : DecidablePred IsPacked := fun text =>
  inferInstanceAs (Decidable (text.toList.count delimiter = 2))

/-- Whether names are what stands before, between and behind the delimiters of a text. -/
structure Divides (text : String) (names : ProductNames) : Prop where
  bare : names.Bare
  joined : text.toList = names.productName.toList ++ delimiter :: names.displayName.toList ++
    delimiter :: names.providerName.toList

theorem exists_unpack_of_isPacked {text : String} (packed : IsPacked text) :
    ∃ names, unpack text = .ok names ∧ Divides text names := by
  have length : (parts text).length = fieldCount := by
    rw [length_parts, packed, fieldCount]
  obtain ⟨names, unpacked, bare, packs⟩ := exists_unpack_of_length length
  refine ⟨names, unpacked, bare, ?_⟩
  rw [← packs, toList_pack, ProductNames.stripped_of_bare bare]
  simp [ProductNames.texts, List.intercalate, List.intersperse]

theorem toOption_unpack_of_not_isPacked {text : String} (other : ¬ IsPacked text) :
    (unpack text).toOption = none := by
  have length : (parts text).length ≠ fieldCount := by
    rw [length_parts, fieldCount]
    exact fun same => other (Nat.succ.inj same)
  rw [unpack_of_length length]
  rfl

theorem isPacked_ne_empty {text : String} (packed : IsPacked text) : text ≠ "" := by
  rintro rfl
  exact absurd packed (by decide)

/-- Empty texts are passed over like all that are not packed, and the first that is packed
gives the names. -/
theorem findSome?_unpack_filter (texts : List String) :
    (texts.filter (· ≠ "")).findSome? (fun text => (unpack text).toOption) =
      (texts.find? (IsPacked ·)).bind fun text => (unpack text).toOption := by
  induction texts with
  | nil => rfl
  | cons text rest ih =>
      by_cases packed : IsPacked text
      · obtain ⟨names, unpacked, -⟩ := exists_unpack_of_isPacked packed
        simp [isPacked_ne_empty packed, packed, unpacked, Except.toOption]
      · have passed := toOption_unpack_of_not_isPacked packed
        by_cases empty : text = ""
        · subst empty
          simpa [packed] using ih
        · simpa [empty, packed, passed] using ih

end Descriptor

namespace PaymentReport

/-- The names that are reported. -/
def names (report : PaymentReport) : ProductNames :=
  ⟨report.productName, report.productDisplayName, report.providerName⟩

/-- A report with other names. -/
def withNames (report : PaymentReport) (names : ProductNames) : PaymentReport :=
  { report with
    productName := names.productName
    productDisplayName := names.displayName
    providerName := names.providerName }

end PaymentReport

/-- Names of which nothing is known. -/
def ProductNames.blank : ProductNames := ⟨"", "", ""⟩

namespace Intent

variable {intent other : Intent} {orderId : String}

/-- Where the descriptor may be found, in order: in its own place, and in the metadata if it
is a string there. -/
def candidates (intent : Intent) : List String :=
  intent.descriptor.toList ++ ((intent.metadata.lookup "descriptor").bind Value.string?).toList

theorem productNames?_eq (intent : Intent) :
    intent.productNames? = (intent.candidates.find? (Descriptor.IsPacked ·)).bind
      fun packed => (Descriptor.unpack packed).toOption :=
  Descriptor.findSome?_unpack_filter intent.candidates

/-- Intents that differ in what they repeat of the order at most. -/
structure Matches (intent other : Intent) : Prop where
  id_eq : other.id = intent.id
  status_eq : other.status = intent.status
  attemptStatus_eq : other.attemptStatus = intent.attemptStatus
  amount_eq : other.amount = intent.amount
  currency_eq : other.currency = intent.currency

/-- Such intents are reported alike but for the names. -/
theorem Matches.report_eq (same : intent.Matches other) (orderId : String) :
    other.report orderId = (intent.report orderId).withNames (other.report orderId).names := by
  obtain ⟨id, status, attempt, amount, currency⟩ := same
  have summary : other.summary = intent.summary := by
    unfold Intent.summary
    rw [id, status, attempt]
  unfold report
  rw [status, attempt]
  cases PaymentState.ofStatuses intent.status intent.attemptStatus with
  | error error => rfl
  | ok state =>
      simp only [amount, currency, summary]
      rfl

section Reconciled

variable {state : PaymentState}
  (reconciled : PaymentState.ofStatuses intent.status intent.attemptStatus = .ok state)
include reconciled

theorem names_report : (intent.report orderId).names = intent.productNames?.getD .blank := by
  unfold report
  rw [reconciled]
  rfl

theorem divides_names_report {packed : String}
    (first : intent.candidates.find? (Descriptor.IsPacked ·) = some packed) :
    Descriptor.Divides packed (intent.report orderId).names := by
  have isPacked : Descriptor.IsPacked packed := by simpa using List.find?_some first
  obtain ⟨names, unpacked, divides⟩ := Descriptor.exists_unpack_of_isPacked isPacked
  have told : intent.productNames? = some names := by
    rw [productNames?_eq, first, Option.bind_some, unpacked]
    rfl
  rwa [names_report reconciled, told]

theorem names_report_of_no_candidate
    (nothing : intent.candidates.find? (Descriptor.IsPacked ·) = none) :
    (intent.report orderId).names = .blank := by
  rw [names_report reconciled, productNames?_eq, nothing]
  rfl

end Reconciled

theorem report_of_error {error : GatewayError}
    (unreconciled : PaymentState.ofStatuses intent.status intent.attemptStatus = .error error) :
    intent.report orderId =
      { PaymentReport.bare gatewayName orderId .error with message := error.message } := by
  unfold report
  rw [unreconciled]

/-- What an intent repeats of the order affects the names of its report at most.  If its
statuses go together, they are the parts of the first candidate that has two delimiters, and
empty if there is none.  If they do not, the report has neither names nor a price and says
that it is an error. -/
theorem names_from_one_candidate (intent : Intent) (orderId : String) :
    (∀ other : Intent, intent.Matches other →
      other.report orderId = (intent.report orderId).withNames (other.report orderId).names) ∧
    (∀ state, PaymentState.ofStatuses intent.status intent.attemptStatus = .ok state →
      (∀ packed, intent.candidates.find? (Descriptor.IsPacked ·) = some packed →
        Descriptor.Divides packed (intent.report orderId).names) ∧
      (intent.candidates.find? (Descriptor.IsPacked ·) = none →
        (intent.report orderId).names = .blank)) ∧
    (∀ error, PaymentState.ofStatuses intent.status intent.attemptStatus = .error error →
      (intent.report orderId).names = .blank ∧ (intent.report orderId).price = .zero false ∧
        (intent.report orderId).currency = "" ∧ (intent.report orderId).state = .error) := by
  refine ⟨fun other same => same.report_eq orderId, fun state reconciled => ?_,
    fun error unreconciled => ?_⟩
  · exact ⟨fun packed first => divides_names_report reconciled first,
      names_report_of_no_candidate reconciled⟩
  · rw [report_of_error unreconciled]
    exact ⟨rfl, rfl, rfl, rfl⟩

end Intent

namespace Sample

/-- An intent with some statuses that repeats some descriptors. -/
def intent (status attempt : String) (descriptor : Option String) (metadata : Members) :
    Intent where
  id := "int"
  clientSecret := ⟨"s"⟩
  status := status
  attemptStatus := attempt
  amount := .zero true
  currency := "EUR"
  requestId := "o"
  merchantOrderId := "o"
  descriptor := descriptor
  metadata := metadata

/-- A paid intent whose descriptor has a delimiter too many, but not the one in its metadata. -/
def garbledIntent : Intent :=
  intent "SUCCEEDED" "PAID" (some "a\ue000b\ue000c\ue000d")
    [("descriptor", .string "x\ue000\ue000z")]

/-- The same intent with nothing but a number in the place of a descriptor. -/
def numberedIntent : Intent :=
  intent "SUCCEEDED" "PAID" none [("descriptor", .number (.integer 1))]

/-- An intent that was declined, with a descriptor. -/
def declinedIntent : Intent :=
  intent "SUCCEEDED" "DECLINED" (some "x\ue000y\ue000z") []

end Sample

namespace Intent

/-- A descriptor that is garbled is passed over, and the names are taken from the metadata; a
number is no descriptor, and the report then differs in the names only; and an intent that was
declined is reported without names, although it has some. -/
theorem names_from_one_candidate_of_samples :
    (Sample.garbledIntent.Matches Sample.numberedIntent ∧
      Sample.numberedIntent.report "o" =
        (Sample.garbledIntent.report "o").withNames (Sample.numberedIntent.report "o").names) ∧
    (Sample.garbledIntent.candidates.find? (Descriptor.IsPacked ·) = some "x\ue000\ue000z" ∧
      Descriptor.Divides "x\ue000\ue000z" (Sample.garbledIntent.report "o").names) ∧
    (Sample.numberedIntent.candidates.find? (Descriptor.IsPacked ·) = none ∧
      (Sample.numberedIntent.report "o").names = .blank) ∧
    ((Sample.declinedIntent.report "o").names = .blank ∧
      (Sample.declinedIntent.report "o").price = .zero false ∧
      (Sample.declinedIntent.report "o").currency = "" ∧
      (Sample.declinedIntent.report "o").state = .error) := by
  obtain ⟨alike, garbled, -⟩ := names_from_one_candidate Sample.garbledIntent "o"
  obtain ⟨-, numbered, -⟩ := names_from_one_candidate Sample.numberedIntent "o"
  obtain ⟨-, -, declined⟩ := names_from_one_candidate Sample.declinedIntent "o"
  have same : Sample.garbledIntent.Matches Sample.numberedIntent := ⟨rfl, rfl, rfl, rfl, rfl⟩
  have first : Sample.garbledIntent.candidates.find? (Descriptor.IsPacked ·) =
      some "x\ue000\ue000z" := by
    decide
  have nothing : Sample.numberedIntent.candidates.find? (Descriptor.IsPacked ·) = none := by
    decide
  exact ⟨⟨same, alike _ same⟩, ⟨first, (garbled .paid rfl).1 _ first⟩,
    ⟨nothing, (numbered .paid rfl).2 nothing⟩, declined (.statuses "SUCCEEDED" "DECLINED") rfl⟩

end Intent

end HostedCheckout
