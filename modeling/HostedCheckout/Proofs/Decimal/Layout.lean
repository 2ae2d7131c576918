import HostedCheckout.Decimal.Layout
import Mathlib.Tactic.Ring

/-!
# The digits that are written

A decimal is written with digits only, and with a point or an exponent among them.  Before
the point there is one digit at least, and no zero in front of others; after it there is one
digit at least.
-/

namespace HostedCheckout.Layout

/-! ## Digits -/

/-- A text of nothing but digits. -/
def AllDigits (text : List Char) : Prop :=
  ∀ digit ∈ text, digit.isDigit = true

theorem AllDigits.head {digit : Char} {rest : List Char} (digits : AllDigits (digit :: rest)) :
    digit.isDigit = true :=
  digits digit List.mem_cons_self

theorem AllDigits.tail {digit : Char} {rest : List Char} (digits : AllDigits (digit :: rest)) :
    AllDigits rest := fun other among => digits other (List.mem_cons_of_mem _ among)

theorem AllDigits.append {first second : List Char} (digits : AllDigits first)
    (more : AllDigits second) : AllDigits (first ++ second) := fun digit among =>
  (List.mem_append.mp among).elim (digits digit) (more digit)

theorem allDigits_toDigits (number : Nat) : AllDigits (Nat.toDigits 10 number) := fun _ among =>
  Nat.isDigit_of_mem_toDigits (by decide) (by decide) among

/-- What holds of ten characters holds of every digit. -/
@[elab_as_elim] theorem forall_digit {motive : Char → Prop} {digit : Char}
    (isDigit : digit.isDigit = true)
    (checked : ∀ value < 10, motive (Char.ofNat (48 + value))) : motive digit := by
  simp only [Char.isDigit, ge_iff_le, Bool.and_eq_true, decide_eq_true_eq, UInt32.le_iff_toNat_le]
    at isDigit
  have low : 48 ≤ digit.toNat := isDigit.1
  have high : digit.toNat ≤ 57 := isDigit.2
  have found := checked (digit.toNat - 48) (by omega)
  rwa [Nat.add_sub_cancel' low, Char.ofNat_toNat] at found

theorem digit_le_nine {digit : Char} (isDigit : digit.isDigit = true) :
    digit.toNat - '0'.toNat ≤ 9 :=
  forall_digit isDigit (by decide)

/-- More digits make no smaller number. -/
theorem le_ofDigitChars (digits : List Char) (value : Nat) :
    value ≤ Nat.ofDigitChars 10 digits value := by
  rw [Nat.ofDigitChars_eq_ofDigitChars_zero]
  exact Nat.le_trans (Nat.le_mul_of_pos_left _ (Nat.pow_pos (by decide))) (Nat.le_add_right _ _)

/-- Digits spell less than the power of ten with as many zeros. -/
theorem ofDigitChars_lt {digits : List Char} (all : AllDigits digits) :
    Nat.ofDigitChars 10 digits 0 < 10 ^ digits.length := by
  induction digits with
  | nil => decide
  | cons digit rest ih =>
      have later := ih all.tail
      have first := digit_le_nine all.head
      rw [Nat.ofDigitChars_cons, Nat.ofDigitChars_eq_ofDigitChars_zero, List.length_cons,
        Nat.pow_succ, Nat.mul_zero, Nat.zero_add]
      have most : 10 ^ rest.length * (digit.toNat - '0'.toNat) ≤ 10 ^ rest.length * 9 :=
        Nat.mul_le_mul_left _ first
      omega

/-! ## Whole parts -/

/-- The digits of a whole part, without a zero in front of others. -/
structure IsWhole (digits : List Char) : Prop where
  all : AllDigits digits
  nonempty : digits ≠ []
  leading : digits = ['0'] ∨ digits.head? ≠ some '0'

theorem isWhole_singleton {digit : Char} (isDigit : digit.isDigit = true) : IsWhole [digit] where
  all := fun other among => by rwa [List.mem_singleton.mp among]
  nonempty := List.cons_ne_nil _ _
  leading := by
    by_cases zero : digit = '0'
    · exact .inl (by rw [zero])
    · exact .inr (by simpa using zero)

/-- The digits of a number above zero do not begin with a zero. -/
theorem head?_toDigits {number : Nat} (positive : 0 < number) :
    (Nat.toDigits 10 number).head? ≠ some '0' := by
  induction number using Nat.strongRecOn with
  | ind number ih =>
      rw [Nat.toDigits_eq_if (by decide)]
      split
      · rename_i small
        have nonzero : ∀ value < 10, 0 < value → value.digitChar ≠ '0' := by decide
        simpa using nonzero number small positive
      · cases shorter : Nat.toDigits 10 (number / 10) with
        | nil => exact absurd shorter Nat.toDigits_ne_nil
        | cons digit rest =>
            have leading := ih (number / 10) (by omega) (by omega)
            rwa [shorter] at leading

theorem isWhole_toDigits (number : Nat) : IsWhole (Nat.toDigits 10 number) where
  all := allDigits_toDigits number
  nonempty := Nat.toDigits_ne_nil
  leading := by
    rcases Nat.eq_zero_or_pos number with rfl | positive
    · exact .inl (Nat.toDigits_zero 10)
    · exact .inr (head?_toDigits positive)

/-! ## Decimals -/

theorem allDigits_replicate (count : Nat) : AllDigits (List.replicate count '0') := by
  intro digit among
  rw [(List.mem_replicate.mp among).2]
  rfl

/-- A whole part is as long as it was, or longer by zeros behind. -/
theorem IsWhole.append_zeros {digits : List Char} (whole : IsWhole digits) {count : Nat}
    (unscaled : digits = ['0'] → count = 0) : IsWhole (digits ++ List.replicate count '0') where
  all := whole.all.append (allDigits_replicate count)
  nonempty := List.append_ne_nil_of_left_ne_nil whole.nonempty _
  leading := by
    rcases whole.leading with zero | leading
    · exact .inl (by rw [unscaled zero, zero]; rfl)
    · cases digits with
      | nil => exact absurd rfl whole.nonempty
      | cons digit rest => exact .inr leading

theorem IsWhole.take {digits : List Char} (whole : IsWhole digits) {count : Nat}
    (positive : 0 < count) (fewer : count < digits.length) : IsWhole (digits.take count) where
  all := fun digit among => whole.all digit (List.mem_of_mem_take among)
  nonempty := by
    rw [Ne, List.take_eq_nil_iff, not_or]
    exact ⟨Nat.ne_of_gt positive, whole.nonempty⟩
  leading := by
    rcases whole.leading with rfl | leading
    · exact absurd fewer (by simp; omega)
    · refine .inr ?_
      rwa [List.head?_take, if_neg (Nat.ne_of_gt positive)]

/-- Digits with a point in its place are a whole part and a fraction. -/
theorem exists_positionalText {digits : List Char} {exponent : Int} (whole : IsWhole digits)
    (small : exponent + digits.length ≤ 16) (unscaled : digits = ['0'] → exponent ≤ 0) :
    ∃ front fraction, positionalText ['.', '0'] digits exponent = front ++ '.' :: fraction ∧
      IsWhole front ∧ front.length ≤ 16 ∧ AllDigits fraction ∧ fraction ≠ [] := by
  have zeroDigits : AllDigits ['0'] := allDigits_replicate 1
  rw [positionalText]
  split
  · refine ⟨digits ++ List.replicate exponent.toNat '0', ['0'], by simp, ?_, ?_, zeroDigits,
      List.cons_ne_nil _ _⟩
    · exact whole.append_zeros fun zero => by
        have down := unscaled zero
        omega
    · rw [List.length_append, List.length_replicate]
      omega
  · dsimp only
    split
    · rename_i fewer
      refine ⟨digits.take (digits.length - (-exponent).toNat),
        digits.drop (digits.length - (-exponent).toNat), rfl,
        whole.take (by omega) (by omega), ?_, ?_, ?_⟩
      · rw [List.length_take]
        omega
      · exact fun digit among => whole.all digit (List.mem_of_mem_drop among)
      · rw [Ne, List.drop_eq_nil_iff]
        omega
    · refine ⟨['0'], List.replicate ((-exponent).toNat - digits.length) '0' ++ digits, rfl,
        isWhole_singleton rfl, by decide, (allDigits_replicate _).append whole.all,
        List.append_ne_nil_of_right_ne_nil _ whole.nonempty⟩

end HostedCheckout.Layout
