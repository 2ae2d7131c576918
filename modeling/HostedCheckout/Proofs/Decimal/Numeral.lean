import HostedCheckout.Decimal.Numeral
import HostedCheckout.Proofs.Decimal.Layout
import HostedCheckout.Proofs.Decimal.Value

/-!
# What numerals stand for

A numeral stands for a rational number.  The text of a decimal, wherever its point is and
whether or not it has an exponent, stands for the number that the decimal stands for.
-/

namespace HostedCheckout

namespace Numeral

open Layout

/-- The number that a numeral stands for. -/
def Parts.value (parts : Parts) : ℚ :=
  (if parts.negative then -1 else 1) * parts.digits * 10 ^ parts.exponent

/-- A text is a numeral that stands for a number. -/
def Denotes (text : List Char) (value : ℚ) : Prop :=
  ∃ parts, parts? text = some parts ∧ parts.value = value

/-! ## Digits -/

theorem digitsValue_eq (digits : List Char) :
    digitsValue digits = Nat.ofDigitChars 10 digits 0 := by
  have folded (start : Nat) :
      digits.foldl (fun value digit => value * 10 + (digit.toNat - 48)) start =
        Nat.ofDigitChars 10 digits start := by
    induction digits generalizing start with
    | nil => rfl
    | cons digit rest ih =>
        rw [List.foldl_cons, ih, Nat.ofDigitChars_cons, Nat.mul_comm]
        rfl
  exact folded 0

theorem digitsValue_toDigits (number : Nat) : digitsValue (Nat.toDigits 10 number) = number := by
  rw [digitsValue_eq]
  exact Nat.ofDigitChars_ten_toDigits

theorem digitsValue_append (first second : List Char) :
    digitsValue (first ++ second) =
      digitsValue first * 10 ^ second.length + digitsValue second := by
  rw [digitsValue_eq, digitsValue_eq, digitsValue_eq, Nat.ofDigitChars_append,
    Nat.ofDigitChars_eq_ofDigitChars_zero, Nat.mul_comm]

theorem digitsValue_replicate (count : Nat) : digitsValue (List.replicate count '0') = 0 := by
  induction count with
  | zero => rfl
  | succ count ih =>
      have zero : digitsValue ['0'] = 0 := rfl
      rw [List.replicate_succ, ← List.singleton_append, digitsValue_append, ih, zero,
        Nat.zero_mul]

/-! ## Parts of numerals -/

variable {whole fraction rest : List Char}

/-- Whether a text does not begin with a digit. -/
def Stops (rest : List Char) : Prop :=
  ∀ character ∈ rest.head?, character.isDigit = false

theorem takeWhile_digits (all : AllDigits whole) (stops : Stops rest) :
    (whole ++ rest).takeWhile Char.isDigit = whole := by
  rw [List.takeWhile_append_of_pos all]
  cases rest with
  | nil => rw [List.takeWhile_nil, List.append_nil]
  | cons character rest =>
      have stopped : character.isDigit = false := stops character rfl
      rw [List.takeWhile_cons_of_neg (by simp [stopped]), List.append_nil]

theorem dropWhile_digits (all : AllDigits whole) (stops : Stops rest) :
    (whole ++ rest).dropWhile Char.isDigit = rest := by
  rw [List.dropWhile_append_of_pos all]
  cases rest with
  | nil => rfl
  | cons character rest =>
      have stopped : character.isDigit = false := stops character rfl
      rw [List.dropWhile_cons_of_neg (by simp [stopped])]

theorem splitSign_digits (all : AllDigits whole) (nonempty : whole ≠ []) (rest : List Char) :
    splitSign (whole ++ rest) = (false, whole ++ rest) := by
  cases whole with
  | nil => exact absurd rfl nonempty
  | cons digit whole =>
      have noMinus : digit ≠ '-' := fun same => absurd all.head (by simp [same])
      have noPlus : digit ≠ '+' := fun same => absurd all.head (by simp [same])
      rw [List.cons_append]
      unfold splitSign
      split
      · rename_i same
        exact absurd (List.cons.inj same).1 noMinus
      · rename_i same
        exact absurd (List.cons.inj same).1 noPlus
      · rfl

/-- Digits without a point. -/
theorem parts?_whole (all : AllDigits whole) (nonempty : whole ≠ []) (stops : Stops rest)
    (unpointed : rest.head? ≠ some '.') :
    parts? (whole ++ rest) =
      (exponent? rest).map fun exponent => ⟨false, digitsValue whole, exponent⟩ := by
  simp only [parts?, splitSign_digits all nonempty, takeWhile_digits all stops,
    dropWhile_digits all stops]
  cases rest with
  | nil => simp [nonempty]
  | cons character rest =>
      have other : character ≠ '.' := fun same => unpointed (congrArg some same)
      simp [nonempty, other]

/-- Digits with a point. -/
theorem parts?_point (all : AllDigits whole) (nonempty : whole ≠ []) (more : AllDigits fraction)
    (stops : Stops rest) :
    parts? (whole ++ '.' :: (fraction ++ rest)) =
      (exponent? rest).map fun exponent =>
        ⟨false, digitsValue (whole ++ fraction), exponent - fraction.length⟩ := by
  have point : Stops ('.' :: (fraction ++ rest)) := by
    intro character next
    obtain rfl := Option.some.inj next
    rfl
  simp only [parts?, splitSign_digits all nonempty, takeWhile_digits all point,
    dropWhile_digits all point, takeWhile_digits more stops, dropWhile_digits more stops]
  simp [nonempty]

/-! ## Exponents -/

theorem stops_nil : Stops [] := fun character next => by cases next

theorem stops_exponentText (lead : Int) : Stops (exponentText lead) := by
  intro character next
  obtain rfl := Option.some.inj next
  rfl

theorem exponent?_exponentText (lead : Int) : exponent? (exponentText lead) = some lead := by
  have all : (Nat.toDigits 10 lead.natAbs).all Char.isDigit = true :=
    List.all_eq_true.mpr (allDigits_toDigits lead.natAbs)
  have value := digitsValue_toDigits lead.natAbs
  have nonempty : Nat.toDigits 10 lead.natAbs ≠ [] := Nat.toDigits_ne_nil
  by_cases down : lead < 0
  · have sign : splitSign ('-' :: Nat.toDigits 10 lead.natAbs) =
        (true, Nat.toDigits 10 lead.natAbs) := rfl
    simp only [exponentText, if_pos down, exponent?, sign, value, all, nonempty, ne_eq,
      not_false_eq_true, and_self, true_or, if_true]
    rw [Int.ofNat_natAbs_of_nonpos (Int.le_of_lt down), Int.neg_neg]
  · have sign : splitSign ('+' :: Nat.toDigits 10 lead.natAbs) =
        (false, Nat.toDigits 10 lead.natAbs) := rfl
    simp only [exponentText, if_neg down, exponent?, sign, value, all, nonempty, ne_eq,
      not_false_eq_true, and_self, true_or, if_true, Bool.false_eq_true, if_false]
    rw [Int.natAbs_of_nonneg (Int.not_lt.mp down)]

/-! ## Written decimals -/

theorem denotes_of_parts? {text : List Char} {decimal : Decimal}
    (parts : parts? text = some ⟨false, decimal.digits, decimal.exponent⟩) :
    Denotes text decimal.value :=
  ⟨_, parts, by simp [Parts.value, Decimal.value]⟩

/-- A whole number is written with zeros behind its digits, and perhaps with another one behind
a point. -/
theorem denotes_whole {mark : List Char} (marks : mark = [] ∨ mark = ['.', '0'])
    (number count : Nat) :
    Denotes (Nat.toDigits 10 number ++ List.replicate count '0' ++ mark)
      (Decimal.value ⟨number, count⟩) := by
  have all : AllDigits (Nat.toDigits 10 number ++ List.replicate count '0') :=
    (allDigits_toDigits number).append (allDigits_replicate count)
  have nonempty : Nat.toDigits 10 number ++ List.replicate count '0' ≠ [] :=
    List.append_ne_nil_of_left_ne_nil Nat.toDigits_ne_nil _
  have spelled : digitsValue (Nat.toDigits 10 number ++ List.replicate count '0') =
      number * 10 ^ count := by
    rw [digitsValue_append, digitsValue_toDigits, digitsValue_replicate, List.length_replicate,
      Nat.add_zero]
  rcases marks with rfl | rfl
  · refine ⟨_, parts?_whole all nonempty stops_nil (by simp), ?_⟩
    simp [Parts.value, Decimal.value, spelled]
  · have longer : digitsValue (Nat.toDigits 10 number ++ List.replicate count '0' ++ ['0']) =
        number * 10 ^ count * 10 := by
      rw [digitsValue_append, spelled]
      rfl
    have zero : AllDigits ['0'] := allDigits_replicate 1
    have taken := parts?_point all nonempty zero stops_nil
    rw [longer] at taken
    refine ⟨_, taken.trans (Option.map_some ..), ?_⟩
    simp [Parts.value, Decimal.value]

theorem denotes_positionalText {mark : List Char} (marks : mark = [] ∨ mark = ['.', '0'])
    (decimal : Decimal) :
    Denotes (positionalText mark (Nat.toDigits 10 decimal.digits) decimal.exponent)
      decimal.value := by
  obtain ⟨number, exponent⟩ := decimal
  have value := digitsValue_toDigits number
  have all := allDigits_toDigits number
  dsimp only
  generalize digitsEq : Nat.toDigits 10 number = digits at value all ⊢
  rw [positionalText]
  dsimp only
  split_ifs with upward inside
  · rw [← digitsEq]
    obtain ⟨count, rfl⟩ := Int.eq_ofNat_of_zero_le upward
    exact denotes_whole marks number count
  · apply denotes_of_parts?
    have nonempty : digits.take (digits.length - (-exponent).toNat) ≠ [] := by
      rw [Ne, List.take_eq_nil_iff, not_or]
      constructor
      · omega
      · intro none
        rw [none] at inside
        cases inside
    have parts := parts?_point (fun digit among => all digit (List.mem_of_mem_take among)) nonempty
      (fun digit among => all digit (List.mem_of_mem_drop among) :
        AllDigits (digits.drop (digits.length - (-exponent).toNat))) stops_nil
    rw [List.append_nil, List.take_append_drop, value, List.length_drop] at parts
    rw [parts]
    simp only [exponent?, Option.map_some, Option.some.injEq, Parts.mk.injEq, true_and]
    omega
  · apply denotes_of_parts?
    have parts := parts?_point (allDigits_replicate 1) (by simp)
      ((allDigits_replicate ((-exponent).toNat - digits.length)).append all) stops_nil
    rw [List.append_nil, digitsValue_append, digitsValue_append, digitsValue_replicate,
      digitsValue_replicate, value, List.length_append, List.length_replicate] at parts
    refine parts.trans ?_
    simp only [exponent?, Option.map_some, Option.some.injEq, Parts.mk.injEq, true_and]
    omega

theorem denotes_exponentForm (decimal : Decimal) :
    Denotes
      (exponentForm (Nat.toDigits 10 decimal.digits)
        (decimal.exponent + (Nat.toDigits 10 decimal.digits).length - 1))
      decimal.value := by
  have value := digitsValue_toDigits decimal.digits
  have all := allDigits_toDigits decimal.digits
  apply denotes_of_parts?
  cases digitsEq : Nat.toDigits 10 decimal.digits with
  | nil => exact absurd digitsEq Nat.toDigits_ne_nil
  | cons digit rest =>
      rw [digitsEq] at value all
      cases rest with
      | nil =>
          have parts := parts?_whole all (by simp)
            (stops_exponentText (decimal.exponent + ([digit].length : Nat) - 1))
            (by simp [exponentText])
          rw [exponent?_exponentText, value] at parts
          refine parts.trans ?_
          simp
      | cons second rest =>
          have parts := parts?_point (isWhole_singleton all.head).all (by simp) all.tail
            (stops_exponentText
              (decimal.exponent + ((digit :: second :: rest).length : Nat) - 1))
          have joined : [digit] ++ second :: rest = digit :: second :: rest := rfl
          rw [exponent?_exponentText, joined, value] at parts
          refine parts.trans ?_
          simp only [Option.map_some, Option.some.injEq, Parts.mk.injEq, true_and,
            List.length_cons]
          omega

/-- The text of a decimal stands for the number that the decimal stands for. -/
theorem denotes_decimalText {layout : Layout}
    (marks : layout.wholeMark = [] ∨ layout.wholeMark = ['.', '0']) (decimal : Decimal) :
    Denotes (layout.decimalText decimal) decimal.value := by
  rw [decimalText]
  split
  · exact denotes_positionalText marks decimal
  · exact denotes_exponentForm decimal

/-- What documents say about a double. -/
theorem denotes_document (magnitude : Magnitude) :
    Denotes (Layout.document.text (.finite false magnitude)) (magnitude.shortest .toEven).value :=
  @denotes_decimalText Layout.document (.inr rfl) _

/-- What people are shown of a double. -/
theorem denotes_display (magnitude : Magnitude) :
    Denotes (Layout.display.text (.finite false magnitude)) (magnitude.shortest .upward).value :=
  @denotes_decimalText Layout.display (.inl rfl) _

end Numeral

end HostedCheckout
