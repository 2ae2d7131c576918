import HostedCheckout.Proofs.Decimal.Numeral
import HostedCheckout.Proofs.Merchant.CheckoutLink

/-!
# What is charged and what is shown

The price of a payment is written twice: in the document that creates the intent, and in the
link to the checkout page.  Both numerals stand for a number above zero that identifies the
price.  It is the same number, unless the price is exactly halfway between two neighbouring
decimals that are as short as any that identify it.
-/

namespace HostedCheckout.Merchant

open Json

variable {merchant : Merchant} {request : PayRequest} {session : Session Exchange}
  {response : PayResponse} {price : Magnitude}

/-- The numbers that a payment is charged as, and shown as: what the numeral under `amount`
stands for in the document that is sent with a token, and in the query of the link. -/
structure Quotes (merchant : Merchant) (request : PayRequest) (session : Session Exchange)
    (response : PayResponse) (charged shown : ℚ) : Prop where
  charges : ∃ (turns : List Turn) (document amount : Value),
    (merchant.pay request session).2.source.turns = session.source.turns ++ turns ∧
      (∃ turn ∈ turns, ∃ token, turn.request.carries token = true) ∧
      (∀ turn ∈ turns, ∀ token, turn.request.carries token = true →
        turn.request.body = document.render) ∧
      document.member? "amount" = some amount ∧ Numeral.Denotes amount.text charged
  shows : ∃ (pairs : List (String × String)) (amount : String),
    Checkout.Extends merchant.checkoutUrl response.payUrl pairs ∧
      pairs.lookup "amount" = some amount ∧ Numeral.Denotes amount.toList shown

/-- The price of a payment that is started is a finite number above zero. -/
theorem exists_price (started : (merchant.pay request session).1 = .ok response) :
    ∃ price : Magnitude, request.price = .finite false price ∧ price.significand ≠ 0 := by
  cases validated : request.validate with
  | error fault =>
      simp only [pay, validated] at started
      cases started
  | ok =>
      simp only [PayRequest.validate] at validated
      split_ifs at validated with blank unpriced
      cases priced : request.price with
      | nan => simp [priced, Binary64.isFinite] at unpriced
      | infinite negative => simp [priced, Binary64.isFinite] at unpriced
      | finite negative price =>
          have positive : negative = false ∧ price.significand ≠ 0 := by
            simpa [priced, Binary64.isFinite, Binary64.isPositive] using unpriced
          obtain ⟨rfl, nonzero⟩ := positive
          exact ⟨price, rfl, nonzero⟩

/-- The document has the text for documents under `amount`, and the link the text for people. -/
theorem quotes_of_pay (started : (merchant.pay request session).1 = .ok response)
    (priced : request.price = .finite false price) :
    Quotes merchant request session response (price.shortest .toEven).value
      (price.shortest .upward).value where
  charges := by
    obtain ⟨intent, created, after, rfl⟩ := created_of_pay started
    obtain ⟨turns, taken, turn, among, opened⟩ := Account.opens_of_createIntent created
    refine ⟨turns, request.intentDocument, .number (.float (.finite false price)), ?_,
      ⟨turn, among, opened.carries⟩, ?_, ?_, Numeral.denotes_document price⟩
    · rw [after, taken]
    · intro turn among token carried
      exact (Account.body_of_creation taken among carried).2
    · rw [← priced]
      unfold PayRequest.intentDocument
      rw [Value.ofBinary64, if_pos (by rw [priced]; rfl)]
      rfl
  shows := by
    obtain ⟨intent, created, after, rfl⟩ := created_of_pay started
    refine ⟨_, request.price.displayText, Checkout.extends_url merchant.checkoutUrl intent request,
      rfl, ?_⟩
    rw [priced, Binary64.displayText, String.toList_ofList]
    exact Numeral.denotes_display price

/-- What a payment is charged as and what it is shown as.  Both numbers are above zero and
identify the price, and they are one number unless the price is exactly halfway between two
neighbouring decimals that are as short as any that identify it; then the lower, even one is
charged and the upper one is shown. -/
theorem charged_eq_shown_iff {merchant : Merchant} {request : PayRequest}
    {session : Session Exchange} {response : PayResponse}
    (started : (merchant.pay request session).1 = .ok response) :
    ∃ (price : Magnitude) (charged shown : Decimal),
      request.price = .finite false price ∧
      Quotes merchant request session response charged.value shown.value ∧
      charged.Identifies price ∧ shown.Identifies price ∧
      0 < charged.value ∧ 0 < shown.value ∧
      (charged.value = shown.value ↔ ∀ lower, ¬ price.TiedAt lower) ∧
      ∀ lower, price.TiedAt lower → charged = lower ∧ shown = lower.next := by
  obtain ⟨price, priced, nonzero⟩ := exists_price started
  refine ⟨price, price.shortest .toEven, price.shortest .upward, priced,
    quotes_of_pay started priced, Magnitude.shortest_identifies nonzero .toEven,
    Magnitude.shortest_identifies nonzero .upward, Magnitude.shortest_value_pos nonzero .toEven,
    Magnitude.shortest_value_pos nonzero .upward, ?_⟩
  rcases Magnitude.shortest_rules nonzero with ⟨same, untied⟩ | ⟨tied, next⟩
  · rw [same]
    exact ⟨iff_of_true rfl untied, fun lower tied => absurd tied (untied lower)⟩
  · rw [next]
    constructor
    · exact iff_of_false (Decimal.value_lt_next _).ne fun untied => untied _ tied
    · intro lower also
      rw [tied.unique also]
      exact ⟨rfl, rfl⟩

/-- A payment of twelve and a half, which is charged and shown as such. -/
theorem charged_eq_shown_of_sample :
    ∃ response,
      ((Sample.merchant .requery).pay Sample.request Sample.creation).1 = .ok response ∧
      ∃ (price : Magnitude) (charged shown : Decimal),
        Sample.request.price = .finite false price ∧
        Quotes (Sample.merchant .requery) Sample.request Sample.creation response
          charged.value shown.value ∧
        charged.Identifies price ∧ shown.Identifies price ∧
        0 < charged.value ∧ 0 < shown.value ∧
        (charged.value = shown.value ↔ ∀ lower, ¬ price.TiedAt lower) ∧
        ∀ lower, price.TiedAt lower → charged = lower ∧ shown = lower.next := by
  have answered :
      ((Sample.merchant .requery).pay Sample.request Sample.creation).1.toOption.isSome = true := by
    decide +kernel
  obtain ⟨response, started⟩ := Option.isSome_iff_exists.mp answered
  exact ⟨response, toOption_eq_some_iff.mp started,
    charged_eq_shown_iff (toOption_eq_some_iff.mp started)⟩

/-- A request whose price is `2 ^ -25`, halfway between two decimals of seventeen digits. -/
def Sample.tied : PayRequest :=
  ⟨"order-7", "p", "P", "", "", .ofDecimal false 298023223876953125 (-25), "USD",
    "https://shop.example/back", "awx"⟩

/-- A price that is charged as one number and shown as another. -/
theorem charged_ne_shown_of_tied :
    ∃ response charged shown,
      ((Sample.merchant .requery).pay Sample.tied Sample.creation).1 = .ok response ∧
      Quotes (Sample.merchant .requery) Sample.tied Sample.creation response charged shown ∧
      charged ≠ shown := by
  have answered :
      ((Sample.merchant .requery).pay Sample.tied Sample.creation).1.toOption.isSome = true := by
    decide +kernel
  obtain ⟨response, known⟩ := Option.isSome_iff_exists.mp answered
  have started := toOption_eq_some_iff.mp known
  let price : Magnitude := ⟨2 ^ 52, 997, by decide, .inr (by decide), by decide⟩
  have priced : Sample.tied.price = .finite false price := by decide +kernel
  have charged : price.shortest .toEven = ⟨29802322387695312, -24⟩ := by decide +kernel
  have shown : price.shortest .upward = ⟨29802322387695313, -24⟩ := by decide +kernel
  have quotes := quotes_of_pay started priced
  rw [charged, shown] at quotes
  exact ⟨response, _, _, started, quotes, (Decimal.value_lt_next _).ne⟩

end HostedCheckout.Merchant
