import HostedCheckout.Json.Reader
import HostedCheckout.Json.Writer
import HostedCheckout.Proofs.Json.Digits
import HostedCheckout.Proofs.Json.Scaling
import HostedCheckout.Proofs.Json.Scan

/-!
# Reading numbers that were written

A finite double is written with digits that are read without a fault: the whole part has no
zero in front, a point is followed by a digit, and the number is not out of range.  The same
goes for integers of 64 bits.
-/

namespace HostedCheckout.Json

open Layout

/-- What can follow a value inside a document: nothing, a comma or a closing bracket. -/
def Ends (rest : Bytes) : Prop :=
  ∀ octet ∈ rest.head?, octet = 0x2C ∨ octet = 0x5D ∨ octet = 0x7D

theorem Ends.noDigit {rest : Bytes} (ends : Ends rest) : NoDigit rest := by
  intro octet next
  rcases ends octet next with rfl | rfl | rfl <;> rfl

namespace Scan

variable {negative : Bool} {significand value : Nat} {exponent : Int} {digits : List Char}
  {rest : Bytes}

/-! ## Parts of numbers -/

theorem afterDigits_of_ends (ends : Ends rest) {number : Binary64}
    (scaled : scaled? (.ofNat significand) exponent 4 = some number) :
    afterDigits negative significand exponent rest = (.ok (signed negative number), rest) := by
  cases rest with
  | nil => simp [afterDigits, float, scaled]
  | cons octet more =>
      rcases ends octet rfl with rfl | rfl | rfl <;> simp [afterDigits, float, scaled]

theorem head?_map_isDigit_of_noDigit (stops : NoDigit rest) :
    (rest.head?.map isDigit).getD false = false := by
  cases rest with
  | nil => rfl
  | cons octet more => exact stops octet rfl

/-- A point and digits lengthen a number, if there is room for one of them at least. -/
theorem fractionPart_encode (negative : Bool) (exponent : Int) (all : AllDigits digits)
    (nonempty : digits ≠ []) (stops : NoDigit rest) (room : 10 * value + 9 ≤ wordLimit) :
    fractionPart negative value exponent (0x2E :: (Utf8.encode digits ++ rest)) =
      afterDigits negative (Nat.ofDigitChars 10 (splitDigits wordLimit value digits).1 value)
        (exponent - (splitDigits wordLimit value digits).1.length) rest := by
  have taken := splitDigits_ne_nil all nonempty room
  have left : AllDigits (splitDigits wordLimit value digits).2 := by
    intro digit among
    refine all digit ?_
    rw [← splitDigits_append wordLimit value digits]
    exact List.mem_append_right _ among
  simp only [fractionPart, advance_bind_cons, get_bind, takeDigits_encode all stops, set_bind,
    Nat.zero_add]
  cases remaining : (splitDigits wordLimit value digits).2 with
  | nil =>
      rw [Utf8.encode_nil, List.nil_append, head?_map_isDigit_of_noDigit stops]
      simp [taken]
  | cons digit more =>
      rw [remaining] at left
      rw [encode_cons_digit left.head, List.cons_append]
      simp only [List.head?_cons, Option.map_some, Option.getD_some,
        isDigit_digitOctet left.head, if_true]
      rw [← List.cons_append, ← encode_cons_digit left.head,
        skipDigits_bind, dropWhile_isDigit_encode left stops]

/-- The octet of the sign of an exponent. -/
def signOctet (down : Bool) : UInt8 :=
  if down then 0x2D else 0x2B

/-- An exponent of moderate size scales a number. -/
theorem exponentPart_encode (all : AllDigits digits) (nonempty : digits ≠ []) (stops : NoDigit rest)
    (small : Nat.ofDigitChars 10 digits 0 ≤ 2147483647) (down : Bool) :
    exponentPart negative significand exponent
        (0x65 :: signOctet down :: (Utf8.encode digits ++ rest)) =
      float negative significand
        (if down then exponent - Nat.ofDigitChars 10 digits 0
          else exponent + Nat.ofDigitChars 10 digits 0) rest := by
  have taken := takeDigits_encode all stops 2147483647 0 0
  rw [splitDigits_of_le small, Utf8.encode_nil, List.nil_append] at taken
  cases digits with
  | nil => exact absurd rfl nonempty
  | cons digit more =>
      rw [encode_cons_digit all.head, List.cons_append] at taken ⊢
      have ended := head?_map_isDigit_of_noDigit stops
      cases down <;>
        simp [exponentPart, signOctet, isDigit_digitOctet all.head, taken, ended]

/-! ## Whole parts -/

/-- A whole part that fits 64 bits is taken as a whole. -/
theorem unsignedNumber_encode (whole : IsWhole digits)
    (small : Nat.ofDigitChars 10 digits 0 ≤ wordLimit) (stops : NoDigit rest) (negative : Bool) :
    unsignedNumber negative (Utf8.encode digits ++ rest) =
      numberTail negative (Nat.ofDigitChars 10 digits 0) rest := by
  rcases whole.leading with rfl | leading
  · have zero : Utf8.encode ['0'] = [0x30] := by decide
    rw [zero]
    cases rest with
    | nil => rfl
    | cons octet more =>
        have other : isDigit octet = false := stops octet rfl
        simp [unsignedNumber, other]
        rfl
  · cases digits with
    | nil => exact absurd rfl whole.nonempty
    | cons digit more =>
        have head := whole.all.head
        have nonzero := digitOctet_ne_zero head fun same => leading (by rw [same]; rfl)
        have taken := takeDigits_encode whole.all stops wordLimit 0 0
        rw [splitDigits_of_le small, Utf8.encode_nil, List.nil_append] at taken
        rw [encode_cons_digit head, List.cons_append] at taken ⊢
        simp only [unsignedNumber, peek?_bind_cons, isDigit_digitOctet head, get_bind, taken,
          takeWhile_isDigit stops, set_bind, List.length_nil, List.drop_zero, if_true]

/-! ## Decimals -/

theorem numberTail_point (value : Nat) (bytes : Bytes) :
    numberTail negative value (0x2E :: bytes) =
      (Number.float <$> fractionPart negative value 0 : Scan Number) (0x2E :: bytes) := by
  rw [map_eq_pure_bind]
  rfl

theorem numberTail_exponent (value : Nat) (bytes : Bytes) :
    numberTail negative value (0x65 :: bytes) =
      (Number.float <$> exponentPart negative value 0 : Scan Number) (0x65 :: bytes) := by
  rw [map_eq_pure_bind]
  rfl

theorem afterDigits_exponent (significand : Nat) (exponent : Int) (bytes : Bytes) :
    afterDigits negative significand exponent (0x65 :: bytes) =
      exponentPart negative significand exponent (0x65 :: bytes) := rfl

theorem encode_point (fraction : List Char) :
    Utf8.encode ('.' :: fraction) = 0x2E :: Utf8.encode fraction := by
  rw [Utf8.encode_cons]
  rfl

theorem noDigit_point (bytes : Bytes) : NoDigit (0x2E :: bytes) := by
  intro octet next
  obtain rfl := Option.some.inj next
  rfl

/-- A whole part and a fraction are read as a double. -/
theorem exists_unsignedNumber_of_point {front fraction : List Char} (whole : IsWhole front)
    (room : 10 * Nat.ofDigitChars 10 front 0 + 9 ≤ wordLimit) (all : AllDigits fraction)
    (nonempty : fraction ≠ []) (negative : Bool) :
    ∃ number, ∀ rest, Ends rest →
      unsignedNumber negative (Utf8.encode (front ++ '.' :: fraction) ++ rest) =
        (.ok (.float number), rest) := by
  have taken := splitDigits_ne_nil all nonempty room
  have fractionEq (rest : Bytes) (ends : Ends rest) :=
    fractionPart_encode negative 0 all nonempty ends.noDigit room
  generalize splitDigits wordLimit (Nat.ofDigitChars 10 front 0) fraction = parts at *
  have positive : 0 < parts.1.length := List.length_pos_iff.mpr taken
  obtain ⟨number, scaled⟩ : ∃ number, scaled?
      (.ofNat (Nat.ofDigitChars 10 parts.1 (Nat.ofDigitChars 10 front 0)))
      (0 - (parts.1.length : Int)) 4 = some number :=
    exists_scaled?_of_neg 4 (by omega)
  refine ⟨signed negative number, fun rest ends => ?_⟩
  rw [Utf8.encode_append, encode_point, List.append_assoc, List.cons_append,
    unsignedNumber_encode whole (by omega) (noDigit_point _), numberTail_point]
  refine map_of_ok ?_ Number.float
  rw [fractionEq rest ends]
  exact afterDigits_of_ends ends scaled

theorem encode_exponentText (lead : Int) :
    Utf8.encode (exponentText lead) =
      0x65 :: signOctet (decide (lead < 0)) :: Utf8.encode (Nat.toDigits 10 lead.natAbs) := by
  rw [exponentText, Utf8.encode_cons, Utf8.encode_cons]
  by_cases down : lead < 0 <;> simp only [down, if_true, if_false, decide_true, decide_false] <;>
    rfl

theorem noDigit_exponentText (lead : Int) (rest : Bytes) :
    NoDigit (Utf8.encode (exponentText lead) ++ rest) := by
  rw [encode_exponentText]
  intro octet next
  obtain rfl := Option.some.inj next
  rfl

theorem exponentPart_exponentText {lead : Int} (moderate : lead.natAbs ≤ 2147483647)
    (stops : NoDigit rest) (negative : Bool) (significand : Nat) (exponent : Int) :
    exponentPart negative significand exponent (Utf8.encode (exponentText lead) ++ rest) =
      float negative significand (exponent + lead) rest := by
  have written : Nat.ofDigitChars 10 (Nat.toDigits 10 lead.natAbs) 0 = lead.natAbs :=
    Nat.ofDigitChars_ten_toDigits
  rw [encode_exponentText, List.cons_append, List.cons_append,
    exponentPart_encode (allDigits_toDigits _) Nat.toDigits_ne_nil stops (by rwa [written]),
    written]
  congr 1
  split
  · rename_i down
    have negative : lead < 0 := of_decide_eq_true down
    omega
  · rename_i up
    have positive : ¬ lead < 0 := fun down => up (decide_eq_true down)
    omega

theorem float_of_scaled {number : Binary64}
    (scaled : scaled? (.ofNat significand) exponent 4 = some number) (negative : Bool)
    (bytes : Bytes) :
    float negative significand exponent bytes = (.ok (signed negative number), bytes) := by
  rw [float, scaled]
  rfl

section Exponent

variable {digit : Char} {fraction : List Char} {lead : Int} {number : Binary64}

theorem ofDigitChars_singleton_le (isDigit : digit.isDigit = true) :
    Nat.ofDigitChars 10 [digit] 0 ≤ 9 := by
  have small := digit_le_nine isDigit
  rw [Nat.ofDigitChars_cons, Nat.ofDigitChars_nil]
  omega

theorem unsignedNumber_digit_exponent (isDigit : digit.isDigit = true)
    (moderate : lead.natAbs ≤ 2147483647)
    (scaled : scaled? (.ofNat (Nat.ofDigitChars 10 [digit] 0)) lead 4 = some number)
    (ends : Ends rest) (negative : Bool) :
    unsignedNumber negative (Utf8.encode (digit :: exponentText lead) ++ rest) =
      (.ok (.float (signed negative number)), rest) := by
  have small := ofDigitChars_singleton_le isDigit
  rw [← List.singleton_append, Utf8.encode_append, List.append_assoc,
    unsignedNumber_encode (isWhole_singleton isDigit) (Nat.le_trans small (by decide))
      (noDigit_exponentText lead rest)]
  have read := exponentPart_exponentText moderate ends.noDigit negative
    (Nat.ofDigitChars 10 [digit] 0) 0
  rw [Int.zero_add, float_of_scaled scaled] at read
  rw [encode_exponentText, List.cons_append] at read ⊢
  rw [numberTail_exponent]
  exact map_of_ok read Number.float

theorem unsignedNumber_fraction_exponent (isDigit : digit.isDigit = true)
    (all : AllDigits fraction) (nonempty : fraction ≠ [])
    (moderate : lead.natAbs ≤ 2147483647)
    (scaled : scaled?
      (.ofNat (Nat.ofDigitChars 10
        (splitDigits wordLimit (Nat.ofDigitChars 10 [digit] 0) fraction).1
        (Nat.ofDigitChars 10 [digit] 0)))
      (0 - (splitDigits wordLimit (Nat.ofDigitChars 10 [digit] 0) fraction).1.length + lead) 4 =
        some number)
    (ends : Ends rest) (negative : Bool) :
    unsignedNumber negative (Utf8.encode (digit :: '.' :: fraction ++ exponentText lead) ++ rest) =
      (.ok (.float (signed negative number)), rest) := by
  have small := ofDigitChars_singleton_le isDigit
  have room : 10 * Nat.ofDigitChars 10 [digit] 0 + 9 ≤ wordLimit :=
    Nat.le_trans (Nat.add_le_add_right (Nat.mul_le_mul_left 10 small) 9) (by decide)
  have split : digit :: '.' :: fraction ++ exponentText lead =
      [digit] ++ ('.' :: (fraction ++ exponentText lead)) := rfl
  rw [split, Utf8.encode_append, encode_point, Utf8.encode_append, List.append_assoc,
    List.cons_append, List.append_assoc,
    unsignedNumber_encode (isWhole_singleton isDigit) (by omega) (noDigit_point _),
    numberTail_point]
  refine map_of_ok ?_ Number.float
  rw [fractionPart_encode negative 0 all nonempty (noDigit_exponentText lead rest) room]
  have read := exponentPart_exponentText moderate ends.noDigit negative
    (Nat.ofDigitChars 10 (splitDigits wordLimit (Nat.ofDigitChars 10 [digit] 0) fraction).1
      (Nat.ofDigitChars 10 [digit] 0))
    (0 - (splitDigits wordLimit (Nat.ofDigitChars 10 [digit] 0) fraction).1.length)
  rw [float_of_scaled scaled] at read
  rw [encode_exponentText, List.cons_append] at read ⊢
  rw [afterDigits_exponent]
  exact read

end Exponent

/-- The digits of a fraction that fit 64 bits can be scaled to the size of the decimal. -/
theorem exists_scaled?_of_fraction {decimal : Decimal} (scales : Scales decimal) {front : Nat}
    {fraction : List Char} (written : Nat.ofDigitChars 10 fraction front = decimal.digits) :
    ∃ number,
      scaled? (.ofNat (Nat.ofDigitChars 10 (splitDigits wordLimit front fraction).1 front))
        (decimal.exponent + (splitDigits wordLimit front fraction).2.length) 4 = some number := by
  have whole := splitDigits_append wordLimit front fraction
  refine scales _ _ ?_ ?_ ?_
  · rw [← written, ← whole, Nat.ofDigitChars_append, whole]
    rw [Nat.ofDigitChars_eq_ofDigitChars_zero (l := (splitDigits wordLimit front fraction).2),
      Nat.mul_comm]
    exact Nat.le_add_right _ _
  · intro nothing
    rw [List.length_eq_zero_iff.mp nothing, List.append_nil] at whole
    rw [whole, written]
  · intro dropped
    rw [← written]
    exact lt_of_splitDigits (List.ne_nil_of_length_pos (Nat.pos_of_ne_zero dropped))

/-- A digit, perhaps a fraction, and an exponent are read as a double. -/
theorem exists_unsignedNumber_of_exponent {decimal : Decimal} (scales : Scales decimal)
    {lead : Int} (leadEq : lead = decimal.exponent + (Nat.toDigits 10 decimal.digits).length - 1)
    (moderate : lead.natAbs ≤ 2147483647) (negative : Bool) :
    ∃ number, ∀ rest, Ends rest →
      unsignedNumber negative
          (Utf8.encode (exponentForm (Nat.toDigits 10 decimal.digits) lead) ++ rest) =
        (.ok (.float number), rest) := by
  have value : Nat.ofDigitChars 10 (Nat.toDigits 10 decimal.digits) 0 = decimal.digits :=
    Nat.ofDigitChars_ten_toDigits
  have all := allDigits_toDigits decimal.digits
  cases digitsEq : Nat.toDigits 10 decimal.digits with
  | nil => exact absurd digitsEq Nat.toDigits_ne_nil
  | cons digit fraction =>
      rw [digitsEq] at value all leadEq
      cases fraction with
      | nil =>
          obtain ⟨number, scaled⟩ := scales decimal.digits 0 (by simp) (fun _ => rfl) (by simp)
          refine ⟨signed negative number, fun rest ends => ?_⟩
          refine unsignedNumber_digit_exponent all.head moderate ?_ ends negative
          have same : decimal.exponent + (0 : Nat) = lead := by
            simp only [List.length_singleton] at leadEq
            omega
          rw [value, ← same, scaled]
      | cons next more =>
          have split : Nat.ofDigitChars 10 (next :: more) (Nat.ofDigitChars 10 [digit] 0) =
              decimal.digits := by
            rw [← value, ← Nat.ofDigitChars_append, List.singleton_append]
          obtain ⟨number, scaled⟩ := exists_scaled?_of_fraction scales split
          refine ⟨signed negative number, fun rest ends => ?_⟩
          refine unsignedNumber_fraction_exponent all.head all.tail (List.cons_ne_nil _ _) moderate
            ?_ ends negative
          have lengths := congrArg List.length
            (splitDigits_append wordLimit (Nat.ofDigitChars 10 [digit] 0) (next :: more))
          rw [← scaled]
          congr 1
          simp only [List.length_append, List.length_cons] at lengths leadEq
          omega

/-! ## Doubles -/

/-- Digits with a point in its place are read as a double. -/
theorem exists_unsignedNumber_of_positional {digits : List Char} {exponent : Int}
    (whole : IsWhole digits) (small : exponent + digits.length ≤ 16)
    (unscaled : digits = ['0'] → exponent ≤ 0) (negative : Bool) :
    ∃ number, ∀ rest, Ends rest →
      unsignedNumber negative (Utf8.encode (positionalText ['.', '0'] digits exponent) ++ rest) =
        (.ok (.float number), rest) := by
  obtain ⟨front, fraction, written, whole, short, all, nonempty⟩ :=
    exists_positionalText whole small unscaled
  have bounded : Nat.ofDigitChars 10 front 0 < 10 ^ 16 :=
    Nat.lt_of_lt_of_le (ofDigitChars_lt whole.all) (Nat.pow_le_pow_right (by decide) short)
  have room : 10 * Nat.ofDigitChars 10 front 0 + 9 ≤ wordLimit := by
    rw [wordLimit]
    omega
  rw [written]
  exact exists_unsignedNumber_of_point whole room all nonempty negative

/-- Only zero has no other digit than zero. -/
theorem exponent_le_of_toDigits_shortest {magnitude : Magnitude}
    (spelled : Nat.toDigits 10 (magnitude.shortest .toEven).digits = ['0']) :
    (magnitude.shortest .toEven).exponent ≤ 0 := by
  have value : Nat.ofDigitChars 10 (Nat.toDigits 10 (magnitude.shortest .toEven).digits) 0 =
      (magnitude.shortest .toEven).digits := Nat.ofDigitChars_ten_toDigits
  have digits : (magnitude.shortest .toEven).digits = 0 := by
    rw [← value, spelled]
    rfl
  rcases magnitude.shortest_cases .toEven with zero | nothing | ⟨positive, -⟩
  · rw [zero]
  · rw [nothing]
    decide
  · omega

/-- A finite double without its sign is read as a double. -/
theorem exists_unsignedNumber_of_magnitude (magnitude : Magnitude) (negative : Bool) :
    ∃ number, ∀ rest, Ends rest →
      unsignedNumber negative (Utf8.encode (Layout.document.magnitudeText magnitude) ++ rest) =
        (.ok (.float number), rest) := by
  rw [magnitudeText, decimalText, show Layout.document.tie = .toEven from rfl]
  split
  · rename_i positional
    have lead : -5 ≤ (magnitude.shortest .toEven).exponent
          + (Nat.toDigits 10 (magnitude.shortest .toEven).digits).length - 1 ∧
        (magnitude.shortest .toEven).exponent
          + (Nat.toDigits 10 (magnitude.shortest .toEven).digits).length - 1 ≤ 15 :=
      of_decide_eq_true positional
    exact exists_unsignedNumber_of_positional (isWhole_toDigits _) (by omega)
      exponent_le_of_toDigits_shortest negative
  · refine exists_unsignedNumber_of_exponent (scales_shortest magnitude) rfl ?_ negative
    rcases magnitude.shortest_cases .toEven with zero | nothing | ⟨positive, within, above⟩
    · rw [zero]
      decide
    · rw [nothing]
      decide
    · have below := magnitude.lead_le within positive
      have length : 0 < (Nat.toDigits 10 (magnitude.shortest .toEven).digits).length :=
        Nat.length_toDigits_pos
      omega

theorem number_of_unsignedNumber {bytes : Bytes} {number : Number}
    (taken : unsignedNumber false bytes = (.ok number, rest)) :
    Scan.number bytes = (.ok number, rest) := by
  cases bytes with
  | nil => exact taken
  | cons octet more =>
      by_cases minus : octet = 0x2D
      · subst minus
        cases taken
      · simpa [Scan.number, minus] using taken

theorem number_minus (bytes : Bytes) :
    Scan.number (0x2D :: bytes) = unsignedNumber true bytes := rfl

theorem exists_number_of_isFinite {value : Binary64} (finite : value.isFinite = true) :
    ∃ number, ∀ rest, Ends rest →
      Scan.number (Utf8.encode (Layout.document.text value) ++ rest) =
        (.ok (.float number), rest) := by
  cases value with
  | nan => exact absurd finite Bool.false_ne_true
  | infinite => exact absurd finite Bool.false_ne_true
  | finite negative magnitude =>
      obtain ⟨number, taken⟩ := exists_unsignedNumber_of_magnitude magnitude negative
      refine ⟨number, fun rest ends => ?_⟩
      cases negative with
      | false => exact number_of_unsignedNumber (taken rest ends)
      | true => exact taken rest ends

end Scan

/-- The double that the text of a double is read as. -/
def rereadDouble (value : Binary64) : Binary64 :=
  match Scan.number (Utf8.encode (Layout.document.text value)) with
  | (.ok (.float number), _) => number
  | _ => value

/-- What the text of a number is read as: an integer of 64 bits as itself, a finite double as a
double, and any other as nothing. -/
def Number.reread : Number → Value
  | .integer value => .number (.integer value)
  | .float value => if value.isFinite then .number (.float (rereadDouble value)) else .null

namespace Scan

/-- A finite double is read as a double, whatever it is followed by. -/
theorem number_of_isFinite {value : Binary64} (finite : value.isFinite = true) {rest : Bytes}
    (ends : Ends rest) :
    number (Utf8.encode (Layout.document.text value) ++ rest) =
      (.ok (.float (rereadDouble value)), rest) := by
  obtain ⟨read, taken⟩ := exists_number_of_isFinite finite
  have alone := taken [] (fun octet next => absurd next (Option.not_mem_none octet))
  rw [List.append_nil] at alone
  rw [taken rest ends, rereadDouble, alone]

end Scan

end HostedCheckout.Json
