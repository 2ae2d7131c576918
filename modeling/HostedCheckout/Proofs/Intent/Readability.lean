import HostedCheckout.Intent.Checkout
import HostedCheckout.Proofs.Url.Marks

/-!
# What the checkout page reads

The query of an address begins at its first question mark.  The page finds all that it is
told at the end of this query, unless the base address ends in a mark that it should not end
in: an ampersand although no query has begun, or a question mark although one has.  In the
first case there is no query at all; in the second one, the first parameter becomes a part of
what the base says.
-/

namespace HostedCheckout.Checkout

/-- The query of an address: what follows its first question mark. -/
def query? : List Char → Option (List Char)
  | [] => none
  | character :: rest => if character = '?' then some rest else query? rest

/-- Whether the query of an address ends in the given names and values. -/
def Readable (address : String) (pairs : List (String × String)) : Prop :=
  ∃ query, query? address.toList = some query ∧ pairs <:+ Form.decode query

variable {front later text : List Char} {pairs : List (String × String)}

theorem query?_append (unmarked : '?' ∉ front) (rest : List Char) :
    query? (front ++ '?' :: rest) = some rest := by
  induction front with
  | nil => simp [query?]
  | cons character front ih =>
      rw [List.mem_cons, not_or] at unmarked
      rw [List.cons_append, query?, if_neg (Ne.symm unmarked.1), ih unmarked.2]

theorem query?_of_unmarked (unmarked : '?' ∉ text) : query? text = none := by
  induction text with
  | nil => rfl
  | cons character text ih =>
      rw [List.mem_cons, not_or] at unmarked
      rw [query?, if_neg (Ne.symm unmarked.1), ih unmarked.2]

/-! ## Parameters within a query -/

/-- Behind an ampersand, parameters are read as they were written. -/
theorem suffix_decode_ampersand : pairs <:+ Form.decode (later ++ '&' :: Form.encode pairs) := by
  rw [Form.decode_append_ampersand, Form.decode_encode]
  exact List.suffix_append _ _

/-- What is read last begins behind the last ampersand. -/
theorem exists_last_part (text : List Char) :
    ∃ before last, '&' ∉ last ∧
      ∀ rest, Form.decode (text ++ rest) = before ++ Form.decode (last ++ rest) := by
  by_cases parted : '&' ∈ text
  · obtain ⟨last, front, reversed, whole⟩ :=
      List.eq_append_cons_of_mem (List.mem_reverse.mpr parted)
    have joined : text = front.reverse ++ '&' :: last.reverse := by
      have same := congrArg List.reverse reversed
      simpa using same
    refine ⟨Form.decode front.reverse, last.reverse, by simpa using whole, fun rest => ?_⟩
    rw [joined, List.append_assoc, List.cons_append, Form.decode_append_ampersand]
  · exact ⟨[], text, parted, fun rest => rfl⟩

/-- Behind a question mark within a query, the first parameter is read as something else. -/
theorem not_suffix_decode_question (later : List Char) (pair next : String × String) :
    ¬ pair :: next :: pairs <:+
      Form.decode (later ++ '?' :: Form.encode (pair :: next :: pairs)) := by
  obtain ⟨before, last, whole, parts⟩ := exists_last_part later
  have swallowing : '&' ∉ last ++ '?' :: Form.encodePair pair := by
    rw [List.mem_append, List.mem_cons, not_or, not_or]
    exact ⟨whole, by decide, Form.not_mem_encodePair pair⟩
  have read : Form.decode (last ++ '?' :: Form.encode (pair :: next :: pairs)) =
      Form.decodePair (last ++ '?' :: Form.encodePair pair) :: next :: pairs := by
    have joined : last ++ '?' :: Form.encode (pair :: next :: pairs) =
        (last ++ '?' :: Form.encodePair pair) ++ '&' :: Form.encode (next :: pairs) := by
      simp [Form.encode]
    rw [joined, Form.decode_append_ampersand, Form.decode_of_not_mem swallowing (by simp),
      Form.decode_encode, List.singleton_append]
  rintro ⟨earlier, same⟩
  rw [parts, read] at same
  obtain ⟨-, tail⟩ := List.append_inj' same rfl
  exact Form.decodePair_append_ne last pair (List.cons.inj tail).1.symm

/-! ## The address -/

theorem toList_url (base : String) (intent : CreatedIntent) (request : PayRequest) :
    (url base intent request).toList =
      base.toList ++ separator base.toList ++ Form.encode (parameters intent request) :=
  String.toList_ofList

/-- A query of parameters has no question mark of its own. -/
theorem unmarked_encode (pairs : List (String × String)) : '?' ∉ Form.encode pairs := by
  intro among
  exact absurd (Form.isFormCharacter_of_mem_encode among) (by decide)

/-- Behind a base without a question mark, parameters can be read unless the base ends in an
ampersand. -/
theorem readable_url_of_unmarked {base : String} (unmarked : '?' ∉ base.toList)
    (intent : CreatedIntent) (request : PayRequest) :
    Readable (url base intent request) (parameters intent request) ↔
      base.toList.getLast? ≠ some '&' := by
  have noQuestion : base.toList.getLast? ≠ some '?' := fun last =>
    unmarked (List.mem_of_getLast? last)
  unfold Readable
  rw [toList_url]
  by_cases ampersand : base.toList.getLast? = some '&'
  · have nothing : '?' ∉ base.toList ++ [] ++ Form.encode (parameters intent request) := by
      rw [List.append_nil, List.mem_append, not_or]
      exact ⟨unmarked, unmarked_encode _⟩
    have closed : separator base.toList = [] := by simp [separator, ampersand]
    rw [closed, query?_of_unmarked nothing]
    simp [ampersand]
  · have opened : separator base.toList = ['?'] := by
      simp [separator, noQuestion, ampersand, unmarked]
    rw [opened, List.append_assoc, List.singleton_append, query?_append unmarked]
    simp [ampersand, Form.decode_encode]

/-- Behind a base with a question mark, parameters can be read unless the base ends in
another one. -/
theorem readable_url_of_marked {base : String} (joined : base.toList = front ++ '?' :: later)
    (unmarked : '?' ∉ front) (intent : CreatedIntent) (request : PayRequest) :
    Readable (url base intent request) (parameters intent request) ↔
      later.getLast? ≠ some '?' := by
  have query : query? (url base intent request).toList =
      some (later ++ separator base.toList ++ Form.encode (parameters intent request)) := by
    rw [toList_url]
    nth_rewrite 1 [joined]
    rw [List.append_assoc, List.append_assoc, List.cons_append, query?_append unmarked,
      List.append_assoc]
  have read : Readable (url base intent request) (parameters intent request) ↔
      parameters intent request <:+
        Form.decode (later ++ separator base.toList ++
          Form.encode (parameters intent request)) := by
    simp [Readable, query]
  rw [read]
  rcases List.eq_nil_or_concat' later with rfl | ⟨inner, last, rfl⟩
  · have closed : separator base.toList = [] := by simp [separator, joined]
    simp [closed, Form.decode_encode]
  · have ends : base.toList.getLast? = some last := by
      rw [joined, ← List.cons_append, ← List.append_assoc, List.getLast?_concat]
    have inside : '?' ∈ base.toList := by simp [joined]
    rw [List.getLast?_concat, Ne, Option.some.injEq]
    by_cases question : last = '?'
    · have closed : separator base.toList = [] := by simp [separator, ends, question]
      subst question
      rw [closed, List.append_nil, List.append_assoc, List.singleton_append]
      exact iff_of_false (not_suffix_decode_question inner _ _) (fun other => other rfl)
    · by_cases ampersand : last = '&'
      · have closed : separator base.toList = [] := by simp [separator, ends, ampersand]
        subst ampersand
        rw [closed, List.append_nil, List.append_assoc, List.singleton_append]
        exact iff_of_true suffix_decode_ampersand question
      · have parted : separator base.toList = ['&'] := by
          simp [separator, ends, question, ampersand, inside]
        rw [parted, List.append_assoc (inner ++ [last]), List.singleton_append]
        exact iff_of_true suffix_decode_ampersand question

/-- The page is told everything by its address, unless the base ends in an ampersand without
having a query, or in a question mark within one. -/
theorem readable_url_iff (base : String) (intent : CreatedIntent) (request : PayRequest) :
    Readable (url base intent request)
        [("intent_id", intent.id), ("client_secret", intent.clientSecret.expose),
          ("currency", request.currency), ("amount", request.price.displayText),
          ("sessionId", request.orderId), ("successUrl", request.returnUrl),
          ("failUrl", request.returnUrl), ("logoUrl", logoUrl request.returnUrl)] ↔
      (base.toList.getLast? = some '&' → '?' ∈ base.toList) ∧
        (base.toList.getLast? = some '?' → '?' ∉ base.toList.dropLast) := by
  change Readable (url base intent request) (parameters intent request) ↔ _
  by_cases marked : '?' ∈ base.toList
  · obtain ⟨front, later, joined, unmarked⟩ := List.eq_append_cons_of_mem marked
    rw [readable_url_of_marked joined unmarked]
    rcases List.eq_nil_or_concat' later with rfl | ⟨inner, last, rfl⟩
    · simp [joined, unmarked]
    · have ends : base.toList = (front ++ '?' :: inner) ++ [last] := by simp [joined]
      rw [ends, List.getLast?_concat, List.getLast?_concat, List.dropLast_concat]
      simp
  · have noQuestion : base.toList.getLast? ≠ some '?' := fun last =>
      marked (List.mem_of_getLast? last)
    rw [readable_url_of_unmarked marked]
    simp [marked, noQuestion]

/-- An ampersand is taken for the end of a query that is not there, and a question mark for
the beginning of one that began before. -/
theorem unreadable_url_of_marks :
    let intent : CreatedIntent := ⟨"int_abc", ⟨"secret"⟩⟩
    let request : PayRequest :=
      ⟨"order-7", "", "", "", "", .ofDecimal false 199 (-1), "USD", "", "awx"⟩
    ¬ Readable (url "https://checkout.example/pay&" intent request)
        (parameters intent request) ∧
      ¬ Readable (url "https://checkout.example/pay?a=b?" intent request)
        (parameters intent request) := by
  intro intent request
  constructor
  · have unmarked : '?' ∉ "https://checkout.example/pay&".toList := by decide
    rw [readable_url_of_unmarked unmarked]
    decide
  · have joined : "https://checkout.example/pay?a=b?".toList =
        "https://checkout.example/pay".toList ++ '?' :: "a=b?".toList := by decide
    rw [readable_url_of_marked joined (by decide)]
    decide

end HostedCheckout.Checkout
