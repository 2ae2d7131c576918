import HostedCheckout.Json.Numeral
import HostedCheckout.Proofs.Decimal.Layout
import HostedCheckout.Proofs.Text.Utf8

/-!
# Taking digits

Digits that were written are taken off the front as long as the number that they spell stays
within a limit.  Which these are depends on the digits alone, and not on what follows them.
-/

namespace HostedCheckout.Json

open Layout

/-- No digit comes next. -/
def NoDigit (rest : Bytes) : Prop :=
  ∀ octet ∈ rest.head?, Scan.isDigit octet = false

/-! ## Octets of digits -/

/-- A digit as an octet. -/
def digitOctet (digit : Char) : UInt8 :=
  .ofNat digit.toNat

theorem utf8EncodeChar_digit {digit : Char} (isDigit : digit.isDigit = true) :
    String.utf8EncodeChar digit = [digitOctet digit] :=
  forall_digit isDigit (by decide)

theorem isDigit_digitOctet {digit : Char} (isDigit : digit.isDigit = true) :
    Scan.isDigit (digitOctet digit) = true :=
  forall_digit isDigit (by decide)

theorem toNat_digitOctet {digit : Char} (isDigit : digit.isDigit = true) :
    (digitOctet digit).toNat = digit.toNat :=
  forall_digit isDigit (by decide)

theorem digitOctet_ne_zero {digit : Char} (isDigit : digit.isDigit = true) (other : digit ≠ '0') :
    digitOctet digit ≠ 0x30 := by
  intro same
  refine other ?_
  rw [← Char.toNat_inj, ← toNat_digitOctet isDigit, same]
  rfl

theorem encode_cons_digit {digit : Char} (isDigit : digit.isDigit = true) (rest : List Char) :
    Utf8.encode (digit :: rest) = digitOctet digit :: Utf8.encode rest := by
  rw [Utf8.encode_cons, utf8EncodeChar_digit isDigit, List.singleton_append]

theorem takeWhile_isDigit {rest : Bytes} (stops : NoDigit rest) :
    rest.takeWhile Scan.isDigit = [] := by
  cases rest with
  | nil => rfl
  | cons octet more =>
      rw [List.takeWhile_cons_of_neg]
      simp [stops octet rfl]

theorem dropWhile_isDigit_encode {digits : List Char} (all : AllDigits digits) {rest : Bytes}
    (stops : NoDigit rest) : (Utf8.encode digits ++ rest).dropWhile Scan.isDigit = rest := by
  induction digits with
  | nil =>
      cases rest with
      | nil => rfl
      | cons octet more =>
          rw [Utf8.encode_nil, List.nil_append, List.dropWhile_cons_of_neg]
          simp [stops octet rfl]
  | cons digit more ih =>
      rw [encode_cons_digit all.head, List.cons_append,
        List.dropWhile_cons_of_pos (isDigit_digitOctet all.head), ih all.tail]

/-! ## Digits within a limit -/

/-- The digits that are taken after a number, as long as it stays within a limit, and those that
are left. -/
def splitDigits (limit : Nat) : Nat → List Char → List Char × List Char
  | _, [] => ([], [])
  | value, digit :: rest =>
      let longer := 10 * value + (digit.toNat - '0'.toNat)
      if longer ≤ limit then
        (digit :: (splitDigits limit longer rest).1, (splitDigits limit longer rest).2)
      else ([], digit :: rest)

variable {limit value : Nat} {digits : List Char}

theorem splitDigits_append (limit value : Nat) (digits : List Char) :
    (splitDigits limit value digits).1 ++ (splitDigits limit value digits).2 = digits := by
  fun_induction splitDigits limit value digits with
  | case1 => rfl
  | case2 value digit rest longer within ih => rw [List.cons_append, ih]
  | case3 => rfl

/-- Digits are left only where all of them together pass the limit. -/
theorem lt_of_splitDigits (left : (splitDigits limit value digits).2 ≠ []) :
    limit < Nat.ofDigitChars 10 digits value := by
  fun_induction splitDigits limit value digits with
  | case1 => exact absurd rfl left
  | case2 value digit rest longer within ih => exact ih left
  | case3 value digit rest longer beyond =>
      exact Nat.lt_of_lt_of_le (Nat.lt_of_not_le beyond) (le_ofDigitChars rest longer)

theorem splitDigits_of_le (within : Nat.ofDigitChars 10 digits value ≤ limit) :
    splitDigits limit value digits = (digits, []) := by
  have nothing : (splitDigits limit value digits).2 = [] := by
    by_contra left
    exact absurd (lt_of_splitDigits left) (Nat.not_lt.mpr within)
  have whole := splitDigits_append limit value digits
  rw [nothing, List.append_nil] at whole
  exact Prod.ext whole nothing

/-- A digit is taken where there is room for any. -/
theorem splitDigits_ne_nil (all : AllDigits digits) (nonempty : digits ≠ [])
    (room : 10 * value + 9 ≤ limit) : (splitDigits limit value digits).1 ≠ [] := by
  cases digits with
  | nil => exact absurd rfl nonempty
  | cons digit rest =>
      have fits := digit_le_nine all.head
      rw [splitDigits, if_pos (by omega)]
      exact List.cons_ne_nil _ _

/-- What is taken off the front of a text that begins with digits. -/
theorem takeDigits_encode (all : AllDigits digits) {rest : Bytes} (stops : NoDigit rest)
    (limit value count : Nat) :
    takeDigits limit value count (Utf8.encode digits ++ rest) =
      (Nat.ofDigitChars 10 (splitDigits limit value digits).1 value,
        count + (splitDigits limit value digits).1.length,
        Utf8.encode (splitDigits limit value digits).2 ++ rest) := by
  induction digits generalizing value count with
  | nil =>
      cases rest with
      | nil => rfl
      | cons octet more =>
          rw [Utf8.encode_nil, List.nil_append, takeDigits, if_neg]
          · rfl
          · simp [stops octet rfl]
  | cons digit more ih =>
      have same : value * 10 + ((digitOctet digit).toNat - 48) =
          10 * value + (digit.toNat - '0'.toNat) := by
        rw [toNat_digitOctet all.head, Nat.mul_comm]
        rfl
      rw [encode_cons_digit all.head, List.cons_append, takeDigits, splitDigits, same]
      simp only [isDigit_digitOctet all.head, true_and]
      split
      · rw [ih all.tail, Nat.ofDigitChars_cons, List.length_cons]
        congr 2
        omega
      · rw [encode_cons_digit all.head]
        rfl

end HostedCheckout.Json
