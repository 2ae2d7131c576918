import HostedCheckout.Proofs.Json.Numeral
import HostedCheckout.Proofs.Json.StringBody

/-!
# Reading tokens

What is read of a text that begins with a scalar, or with one of the marks that stand
before, between and after the parts of a value.
-/

namespace HostedCheckout.Json

open Layout

/-- Whether a number is a double, or an integer of 64 bits. -/
def Number.fits : Number → Bool
  | .integer value => -9223372036854775808 ≤ value ∧ value ≤ 18446744073709551615
  | .float _ => true

/-! ## Scalars -/

theorem isBlank_of_beginsNumber {octet : UInt8} (begins : Scan.beginsNumber octet = true) :
    Scan.isBlank octet = false := by
  by_contra blank
  simp only [Scan.isBlank, Bool.or_eq_true, beq_iff_eq, Bool.not_eq_false] at blank
  rcases blank with ((rfl | rfl) | rfl) | rfl <;> exact absurd begins (by decide)

theorem beginsWord_of_beginsNumber {octet : UInt8} (begins : Scan.beginsNumber octet = true) :
    Scan.beginsWord octet = false := by
  by_contra word
  simp only [Scan.beginsWord, Bool.or_eq_true, beq_iff_eq, Bool.not_eq_false] at word
  rcases word with (rfl | rfl) | rfl <;> exact absurd begins (by decide)

theorem isBlank_of_beginsWord {octet : UInt8} (begins : Scan.beginsWord octet = true) :
    Scan.isBlank octet = false := by
  simp only [Scan.beginsWord, Bool.or_eq_true, beq_iff_eq] at begins
  rcases begins with (rfl | rfl) | rfl <;> rfl

namespace Scan

variable {bytes rest : Bytes}

/-- A text that is read as a number begins with a digit or a minus sign. -/
theorem beginsNumber_of_number {number : Number}
    (taken : Scan.number bytes = (.ok number, rest)) :
    ∃ octet more, bytes = octet :: more ∧ beginsNumber octet = true := by
  cases bytes with
  | nil => cases taken
  | cons octet more =>
      refine ⟨octet, more, rfl, ?_⟩
      by_contra other
      simp only [beginsNumber, Bool.or_eq_true, beq_iff_eq, not_or] at other
      obtain ⟨minus, digit⟩ := other
      have zero : octet ≠ 0x30 := by
        rintro rfl
        exact digit rfl
      simp [Scan.number, unsignedNumber, minus, digit] at taken
      cases taken

theorem numberTail_of_ends (ends : Ends rest) (negative : Bool) (value : Nat) :
    numberTail negative value rest = (.ok (wholeNumber negative value), rest) := by
  cases rest with
  | nil => rfl
  | cons octet more => rcases ends octet rfl with rfl | rfl | rfl <;> rfl

/-- The digits of a number that fits 64 bits are read as that number. -/
theorem unsignedNumber_toDigits {number : Nat} (small : number ≤ wordLimit) (ends : Ends rest)
    (negative : Bool) :
    unsignedNumber negative (Utf8.encode (Nat.toDigits 10 number) ++ rest) =
      (.ok (wholeNumber negative number), rest) := by
  have written : Nat.ofDigitChars 10 (Nat.toDigits 10 number) 0 = number :=
    Nat.ofDigitChars_ten_toDigits
  rw [unsignedNumber_encode (isWhole_toDigits number) (by rwa [written]) ends.noDigit, written,
    numberTail_of_ends ends]

/-- An integer of 64 bits is read as itself. -/
theorem number_of_integer {value : Int} (fits : (Number.integer value).fits = true)
    (ends : Ends rest) :
    Scan.number (Utf8.encode (toString value).toList ++ rest) = (.ok (.integer value), rest) := by
  have range := of_decide_eq_true fits
  have digits (number : Nat) : (toString number).toList = Nat.toDigits 10 number := by
    rw [Nat.toString_eq_ofList_toDigits, String.toList_ofList]
  cases value with
  | ofNat number =>
      have small : number ≤ wordLimit := Int.ofNat_le.mp range.2
      have same : toString (Int.ofNat number) = toString number := rfl
      rw [same, digits]
      exact number_of_unsignedNumber (unsignedNumber_toDigits small ends false)
  | negSucc number =>
      have small : number + 1 ≤ wordLimit := by
        rw [wordLimit]
        omega
      have same : (toString (Int.negSucc number)).toList = '-' :: Nat.toDigits 10 (number + 1) := by
        rw [← digits]
        exact String.toList_append
      have minus : Utf8.encode ('-' :: Nat.toDigits 10 (number + 1)) =
          0x2D :: Utf8.encode (Nat.toDigits 10 (number + 1)) := by
        rw [Utf8.encode_cons]
        rfl
      have signed : wholeNumber true (number + 1) = .integer (Int.negSucc number) := by
        rw [wholeNumber, if_neg (by decide), if_neg (by omega)]
        rfl
      rw [same, minus, List.cons_append, number_minus, unsignedNumber_toDigits small ends, signed]

variable {part : Option (Scan Value)}

theorem valueOf_of_number {number : Number} (taken : Scan.number bytes = (.ok number, rest)) :
    valueOf part bytes = (.ok (.number number), rest) := by
  obtain ⟨octet, more, rfl, begins⟩ := beginsNumber_of_number taken
  unfold valueOf
  rw [peekToken?_bind_cons (isBlank_of_beginsNumber begins)]
  simp only [beginsWord_of_beginsNumber begins, begins, Bool.false_eq_true, if_false, if_true]
  exact bind_of_ok taken

theorem valueOf_of_beginsWord {octet : UInt8} (begins : beginsWord octet = true)
    (more : Bytes) : valueOf part (octet :: more) = word octet (octet :: more) := by
  unfold valueOf
  rw [peekToken?_bind_cons (isBlank_of_beginsWord begins)]
  simp only [begins, if_true]

theorem valueOf_null (rest : Bytes) :
    valueOf part (Utf8.encode "null".toList ++ rest) = (.ok .null, rest) := by
  have text : Utf8.encode "null".toList = 0x6E :: [0x75, 0x6C, 0x6C] := by decide
  rw [text, List.cons_append, valueOf_of_beginsWord rfl, word, advance_bind_cons, if_pos rfl]
  exact bind_of_ok (literal_append [0x75, 0x6C, 0x6C] rest)

theorem valueOf_true (rest : Bytes) :
    valueOf part (Utf8.encode "true".toList ++ rest) = (.ok (.boolean true), rest) := by
  have text : Utf8.encode "true".toList = 0x74 :: [0x72, 0x75, 0x65] := by decide
  rw [text, List.cons_append, valueOf_of_beginsWord rfl, word, advance_bind_cons,
    if_neg (by decide), if_pos rfl]
  exact bind_of_ok (literal_append [0x72, 0x75, 0x65] rest)

theorem valueOf_false (rest : Bytes) :
    valueOf part (Utf8.encode "false".toList ++ rest) = (.ok (.boolean false), rest) := by
  have text : Utf8.encode "false".toList = 0x66 :: [0x61, 0x6C, 0x73, 0x65] := by decide
  rw [text, List.cons_append, valueOf_of_beginsWord rfl, word, advance_bind_cons,
    if_neg (by decide), if_neg (by decide)]
  exact bind_of_ok (literal_append [0x61, 0x6C, 0x73, 0x65] rest)

theorem valueOf_string (text : String) (rest : Bytes) :
    valueOf part (Utf8.encode (stringText text) ++ rest) = (.ok (.string text), rest) := by
  have taken := key_stringText text rest
  rw [encode_stringText, List.cons_append] at taken ⊢
  unfold valueOf
  rw [peekToken?_bind_cons (by decide)]
  exact bind_of_ok taken

/-- The text of a number is read as a number, or as nothing. -/
theorem valueOf_numberText {number : Number} (fits : number.fits = true) (ends : Ends rest) :
    valueOf part (Utf8.encode number.text ++ rest) = (.ok number.reread, rest) := by
  cases number with
  | integer value => exact valueOf_of_number (number_of_integer fits ends)
  | float value =>
      rw [Number.text, Number.reread]
      split
      · rename_i finite
        exact valueOf_of_number (number_of_isFinite finite ends)
      · exact valueOf_null rest

/-! ## Separators -/

theorem hasElement_close (first : Bool) (tail : Bytes) :
    hasElement first (0x5D :: tail) = (.ok false, 0x5D :: tail) := by
  rw [hasElement, peekToken?_bind_cons (by decide)]
  rfl

theorem hasElement_first {octet : UInt8} (solid : isBlank octet = false) (unclosed : octet ≠ 0x5D)
    (more : Bytes) : hasElement true (octet :: more) = (.ok true, octet :: more) := by
  rw [hasElement, peekToken?_bind_cons solid]
  simp [unclosed]

theorem hasElement_comma {octet : UInt8} (solid : isBlank octet = false) (unclosed : octet ≠ 0x5D)
    (more : Bytes) : hasElement false (0x2C :: octet :: more) = (.ok true, octet :: more) := by
  rw [hasElement, peekToken?_bind_cons (by decide)]
  simp [peekToken?_bind_cons solid, unclosed]

theorem closeArray_cons (rest : Bytes) : closeArray (0x5D :: rest) = (.ok (), rest) := by
  rw [closeArray, peekToken?_bind_cons (by decide)]
  rfl

theorem hasMember_close (first : Bool) (tail : Bytes) :
    hasMember first (0x7D :: tail) = (.ok false, 0x7D :: tail) := by
  rw [hasMember, peekToken?_bind_cons (by decide)]
  rfl

theorem hasMember_first (more : Bytes) :
    hasMember true (0x22 :: more) = (.ok true, 0x22 :: more) := by
  rw [hasMember, peekToken?_bind_cons (by decide)]
  rfl

theorem hasMember_comma (more : Bytes) :
    hasMember false (0x2C :: 0x22 :: more) = (.ok true, 0x22 :: more) := by
  rw [hasMember, peekToken?_bind_cons (by decide)]
  simp [peekToken?_bind_cons (show isBlank 0x22 = false by decide)]

theorem closeObject_cons (rest : Bytes) : closeObject (0x7D :: rest) = (.ok (), rest) := by
  rw [closeObject, peekToken?_bind_cons (by decide)]
  rfl

theorem colon_cons (rest : Bytes) : colon (0x3A :: rest) = (.ok (), rest) := by
  rw [colon, peekToken?_bind_cons (by decide)]
  rfl

end Scan

end HostedCheckout.Json
