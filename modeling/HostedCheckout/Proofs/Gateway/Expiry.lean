import HostedCheckout.Proofs.Gateway.Turns
import HostedCheckout.Proofs.Json.Digits
import HostedCheckout.Proofs.Time.Rfc3339

/-!
# Offsets without a colon

An expiry whose offset is written without its colon is read as the same expiry with the
colon, provided that a `T` stands somewhere before the offset.  Where none does, as in
timestamps with a blank or a small `t` between date and time, the colon is not put in, and
the expiry is refused: what has no colon is no offset to the reader of timestamps.
-/

namespace HostedCheckout

/-- An offset as it is written: a sign, and two digits each of hours and minutes. -/
structure Offset where
  sign : Char
  tensOfHours : Char
  hours : Char
  tensOfMinutes : Char
  minutes : Char
  isSign : sign = '+' ∨ sign = '-'
  isDigits : [tensOfHours, hours, tensOfMinutes, minutes].all Char.isDigit = true

namespace Offset

variable (offset : Offset)

/-- The offset without a colon. -/
def bare : List Char :=
  [offset.sign, offset.tensOfHours, offset.hours, offset.tensOfMinutes, offset.minutes]

/-- The offset with its colon. -/
def coloned : List Char :=
  [offset.sign, offset.tensOfHours, offset.hours, ':', offset.tensOfMinutes, offset.minutes]

variable {offset}

theorem isDigit_of_mem {digit : Char}
    (among : digit ∈ [offset.tensOfHours, offset.hours, offset.tensOfMinutes, offset.minutes]) :
    digit.isDigit = true :=
  List.all_eq_true.mp offset.isDigits digit among

/-- The octets of digits, one for each. -/
theorem encode_digits {digits : List Char}
    (among : digits ⊆ [offset.tensOfHours, offset.hours, offset.tensOfMinutes, offset.minutes]) :
    Utf8.encode digits = digits.map Json.digitOctet := by
  induction digits with
  | nil => rfl
  | cons digit rest ih =>
      rw [Json.encode_cons_digit (isDigit_of_mem (among List.mem_cons_self)),
        ih fun other later => among (List.mem_cons_of_mem digit later), List.map_cons]

/-- Every character of an offset is one octet. -/
theorem utf8Size_of_mem {character : Char} (among : character ∈ offset.coloned) :
    character.utf8Size = 1 := by
  have digit {digit : Char}
      (among : digit ∈ [offset.tensOfHours, offset.hours, offset.tensOfMinutes, offset.minutes]) :
      digit.utf8Size = 1 := Layout.forall_digit (isDigit_of_mem among) (by decide)
  simp only [coloned, List.mem_cons, List.not_mem_nil, or_false] at among
  rcases among with rfl | rfl | rfl | rfl | rfl | rfl
  · rcases offset.isSign with plus | minus
    · rw [plus]
      rfl
    · rw [minus]
      rfl
  · exact digit (by simp)
  · exact digit (by simp)
  · rfl
  · exact digit (by simp)
  · exact digit (by simp)

theorem length_encode {characters : List Char} (among : characters ⊆ offset.coloned) :
    (Utf8.encode characters).length = characters.length := by
  induction characters with
  | nil => rfl
  | cons character rest ih =>
      rw [Utf8.encode_cons, List.length_append, String.length_utf8EncodeChar,
        utf8Size_of_mem (among List.mem_cons_self),
        ih fun other later => among (List.mem_cons_of_mem character later), List.length_cons,
        Nat.add_comm]

theorem bare_subset : offset.bare ⊆ offset.coloned := by
  intro character among
  simp only [bare, coloned, List.mem_cons] at among ⊢
  tauto

end Offset

namespace AccessToken

variable (offset : Offset) (head : List Char)

/-- A text is split in front of a tail if as many octets are to be left. -/
theorem splitAtOctets?_append {tail : List Char} (nonempty : tail ≠ []) {count : Nat}
    (length : (Utf8.encode tail).length = count) :
    splitAtOctets? count (head ++ tail) = some (head, tail) := by
  subst length
  induction head with
  | nil =>
      cases tail with
      | nil => exact absurd rfl nonempty
      | cons => simp [splitAtOctets?]
  | cons character rest ih =>
      have longer : 0 < (String.utf8EncodeChar character).length := by
        rw [String.length_utf8EncodeChar]
        exact Char.utf8Size_pos character
      rw [List.cons_append, splitAtOctets?, ih, Utf8.encode_cons]
      simp only [Utf8.encode_append, List.length_append]
      rw [if_neg (by omega), if_neg (by omega)]
      rfl

theorem withColon?_bare : withColon? offset.bare = some offset.coloned := by
  simp only [withColon?, Offset.bare, offset.isSign, offset.isDigits, and_self, if_true]
  rfl

/-- What begins with a digit is no offset. -/
theorem withColon?_of_digit {digit : Char} (isDigit : digit.isDigit = true) (rest : List Char) :
    withColon? (digit :: rest) = none := by
  have noSign : ¬(digit = '+' ∨ digit = '-') := by
    rintro (rfl | rfl) <;> exact absurd isDigit (by decide)
  unfold withColon?
  split
  · rename_i same
    cases same
    rw [if_neg (fun given => noSign given.1)]
  · rfl

/-- A missing colon is put in if a `T` stands before the offset. -/
theorem normalizeOffset_bare :
    normalizeOffset (String.ofList (head ++ offset.bare)) =
      String.ofList (head ++ if 'T' ∈ head then offset.coloned else offset.bare) := by
  have split : splitAtOctets? offsetLength (head ++ offset.bare) = some (head, offset.bare) :=
    splitAtOctets?_append head (List.cons_ne_nil _ _) (Offset.length_encode Offset.bare_subset)
  simp only [normalizeOffset, String.toList_ofList, split, withColon?_bare, List.contains_iff_mem]
  split_ifs <;> rfl

/-- A colon that is there stays alone. -/
theorem normalizeOffset_coloned :
    normalizeOffset (String.ofList (head ++ offset.coloned)) =
      String.ofList (head ++ offset.coloned) := by
  -- The last five octets begin with the first digit, after the sign.
  have split : splitAtOctets? offsetLength (head ++ offset.coloned) =
      some (head ++ [offset.sign], offset.coloned.tail) := by
    have joined : head ++ offset.coloned = head ++ [offset.sign] ++ offset.coloned.tail := by
      simp [Offset.coloned]
    rw [joined]
    exact splitAtOctets?_append _ (List.cons_ne_nil _ _)
      (Offset.length_encode (List.tail_subset offset.coloned))
  have complete : withColon? offset.coloned.tail = none :=
    withColon?_of_digit (Offset.isDigit_of_mem List.mem_cons_self) _
  simp only [normalizeOffset, String.toList_ofList, split, complete]

theorem parseExpiry_eq_ok_iff {raw : String} {instant : Instant} :
    parseExpiry raw = .ok instant ↔
      Rfc3339.read (Bytes.ofString (normalizeOffset raw)) = .ok instant := by
  unfold parseExpiry
  cases Rfc3339.read (Bytes.ofString (normalizeOffset raw)) <;> simp

/-- What has no colon is no offset to the reader of timestamps. -/
theorem not_endsInOffset_bare (front : Bytes) :
    ¬ Rfc3339.EndsInOffset (front ++ Utf8.encode offset.bare) := by
  have digits : Utf8.encode [offset.hours, offset.tensOfMinutes, offset.minutes] =
      [Json.digitOctet offset.hours, Json.digitOctet offset.tensOfMinutes,
        Json.digitOctet offset.minutes] :=
    Offset.encode_digits (List.subset_cons_self offset.tensOfHours _)
  have last : Utf8.encode offset.bare =
      Utf8.encode [offset.sign, offset.tensOfHours] ++
        [Json.digitOctet offset.hours, Json.digitOctet offset.tensOfMinutes,
          Json.digitOctet offset.minutes] := by
    rw [← digits, ← Utf8.encode_append]
    rfl
  have isDigits := List.all_eq_true.mp offset.isDigits
  have hours : offset.hours.isDigit = true := isDigits offset.hours (by simp)
  have minutes : offset.minutes.isDigit = true := isDigits offset.minutes (by simp)
  have noColon : Json.digitOctet offset.hours ≠ 0x3A := Layout.forall_digit hours (by decide)
  have noLetter : Json.digitOctet offset.minutes ≠ 0x5A ∧ Json.digitOctet offset.minutes ≠ 0x7A :=
    Layout.forall_digit minutes (by decide)
  rw [last, ← List.append_assoc]
  generalize front ++ Utf8.encode [offset.sign, offset.tensOfHours] = before
  generalize same : before ++ [_, _, _] = text
  rintro (⟨other, letter⟩ | ⟨other, _, _⟩)
  · have ends : Json.digitOctet offset.minutes = _ :=
      Option.some.inj (by simpa using congrArg List.getLast? same)
    rcases letter with rfl | rfl
    · exact noLetter.1 ends
    · exact noLetter.2 ends
  · have ends := (List.append_inj' same rfl).2
    exact noColon (List.cons.inj ends).1

/-- Writing an offset without its colon changes nothing where a `T` stands before it,
and makes an expiry unreadable everywhere else. -/
theorem parseExpiry_bare_iff (head : String) (offset : Offset) (instant : Instant) :
    parseExpiry (head ++ String.ofList offset.bare) = .ok instant ↔
      'T' ∈ head.toList ∧ parseExpiry (head ++ String.ofList offset.coloned) = .ok instant := by
  have written (tail : List Char) :
      head ++ String.ofList tail = String.ofList (head.toList ++ tail) := by
    rw [String.ofList_append, String.ofList_toList]
  rw [written, written]
  simp only [parseExpiry_eq_ok_iff, normalizeOffset_bare, normalizeOffset_coloned,
    Bytes.ofString_ofList]
  by_cases marked : 'T' ∈ head.toList
  · simp only [marked, if_true, true_and]
  · simp only [marked, if_false, false_and, iff_false]
    intro read
    rw [Utf8.encode_append] at read
    exact not_endsInOffset_bare offset _ (Rfc3339.endsInOffset_of_read read)

/-- Without a `T`, the colon makes the difference. -/
theorem colon_needed_after_blank :
    parseExpiry "2024-01-01 00:00:00+00:00" = .ok ⟨1704067200, 0⟩ ∧
      parseExpiry "2024-01-01 00:00:00+0000" ≠ .ok ⟨1704067200, 0⟩ := by
  constructor
  · exact toOption_eq_some_iff.mp (by decide +kernel)
  · rw [ne_eq, ← toOption_eq_some_iff]
    decide +kernel

end AccessToken

end HostedCheckout
