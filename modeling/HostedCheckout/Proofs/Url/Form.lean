import HostedCheckout.Proofs.Text.Utf8
import HostedCheckout.Proofs.Url.Percent
import HostedCheckout.Url.Form

/-!
# Forms

What is written as a form is read as it was: no name and no value can bring in another
pair, or swallow one, since the marks between them are encoded wherever they stand inside.
-/

namespace HostedCheckout.Form

/-- Characters of which a name or a value is written. -/
def isTextCharacter (character : Char) : Bool :=
  character.isAlphanum || "*-._+%".toList.contains character

/-- Characters of which a form is written. -/
def isFormCharacter (character : Char) : Bool :=
  isTextCharacter character || character == '=' || character == '&'

/-! ## Names and values -/

theorem isTextCharacter_of_encodeOctet : ∀ octet : UInt8,
    (encodeOctet octet).all isTextCharacter = true :=
  Percent.forall_octet (by decide +kernel)

theorem isTextCharacter_of_mem_encodeText {text : String} {character : Char}
    (among : character ∈ encodeText text) : isTextCharacter character = true := by
  obtain ⟨octet, -, written⟩ := List.mem_flatMap.mp among
  exact List.all_eq_true.mp (isTextCharacter_of_encodeOctet octet) character written

/-- A plus sign that has been read stands for a blank. -/
def plusToBlank (octet : UInt8) : UInt8 :=
  if octet = 0x2B then 0x20 else octet

/-- The octets of an octet that is written, once plus signs are read as blanks. -/
def writtenOctets (octet : UInt8) : Bytes :=
  (Utf8.encode (encodeOctet octet)).map plusToBlank

/-- An octet is written as itself, or as an escape. -/
theorem writtenOctets_cases : ∀ octet : UInt8,
    (writtenOctets octet = [octet] ∧ octet ≠ 0x25) ∨
      writtenOctets octet =
        [0x25, Percent.digitOctet (octet.toNat / 16), Percent.digitOctet octet.toNat] :=
  Percent.forall_octet (by decide +kernel)

theorem decode_writtenOctets_append (octet : UInt8) (rest : Bytes) :
    Percent.decode (writtenOctets octet ++ rest) = octet :: Percent.decode rest := by
  rcases writtenOctets_cases octet with ⟨itself, plain⟩ | escaped
  · rw [itself, List.singleton_append, Percent.decode_of_ne plain]
  · obtain ⟨high, low, value⟩ := Percent.hexValue?_digitOctet octet
    rw [escaped]
    simp only [List.cons_append, List.nil_append]
    rw [Percent.decode_escape high low, value]

theorem decode_flatMap_writtenOctets (octets : Bytes) :
    Percent.decode (octets.flatMap writtenOctets) = octets := by
  induction octets with
  | nil => rfl
  | cons octet rest ih => rw [List.flatMap_cons, decode_writtenOctets_append, ih]

/-- A name or a value stands for the text that it was written for. -/
theorem decodeText_encodeText (text : String) : decodeText (encodeText text) = text := by
  have written : (Utf8.encode (encodeText text)).map plusToBlank =
      (Bytes.ofString text).flatMap writtenOctets := by
    rw [encodeText, Utf8.encode, List.flatMap_assoc, List.map_flatMap]
    rfl
  change (Percent.decode ((Utf8.encode (encodeText text)).map plusToBlank)).toStringLossy = text
  rw [written, decode_flatMap_writtenOctets, Bytes.toStringLossy_ofString]

/-! ## Pairs -/

theorem not_mem_encodeText {character : Char} (other : isTextCharacter character = false)
    (text : String) : character ∉ encodeText text := by
  intro among
  rw [isTextCharacter_of_mem_encodeText among] at other
  exact absurd other.symm Bool.false_ne_true

/-- A pair is parted at its first equals sign. -/
theorem decodePair_append_equals {name : List Char} (unmarked : '=' ∉ name) (value : List Char) :
    decodePair (name ++ '=' :: value) = (decodeText name, decodeText value) := by
  have passed : ∀ character ∈ name, decide (character ≠ '=') = true := by
    intro character among
    simpa using fun same : character = '=' => unmarked (same ▸ among)
  rw [decodePair, List.takeWhile_append_of_pos passed, List.dropWhile_append_of_pos passed]
  simp

theorem decodePair_encodePair (pair : String × String) : decodePair (encodePair pair) = pair := by
  rw [encodePair, decodePair_append_equals (not_mem_encodeText (by decide) pair.1),
    decodeText_encodeText, decodeText_encodeText]

theorem not_mem_encodePair (pair : String × String) : '&' ∉ encodePair pair := by
  rw [encodePair, List.mem_append, List.mem_cons, not_or, not_or]
  exact ⟨not_mem_encodeText (by decide) _, by decide, not_mem_encodeText (by decide) _⟩

theorem encode_eq_intercalate (pairs : List (String × String)) :
    encode pairs = ['&'].intercalate (pairs.map encodePair) := by
  fun_induction encode pairs with
  | case1 => rfl
  | case2 pair => simp [List.intercalate]
  | case3 pair next rest ih => simp [ih, List.intercalate]

/-- A form stands for the pairs that it was written for. -/
theorem decode_encode (pairs : List (String × String)) : decode (encode pairs) = pairs := by
  rcases pairs with _ | ⟨pair, rest⟩
  · rfl
  · have apart : ∀ part ∈ (pair :: rest).map encodePair, '&' ∉ part := by
      intro part among
      obtain ⟨pair, -, rfl⟩ := List.mem_map.mp among
      exact not_mem_encodePair pair
    have nonempty : ((pair :: rest).map encodePair).filter (· ≠ []) =
        (pair :: rest).map encodePair := by
      rw [List.filter_eq_self]
      intro part among
      obtain ⟨pair, -, rfl⟩ := List.mem_map.mp among
      simp [encodePair]
    rw [decode, encode_eq_intercalate, List.splitOn_intercalate '&' apart (by simp), nonempty,
      List.map_map]
    exact List.map_id'' decodePair_encodePair _

/-- A form is written of nothing but its characters. -/
theorem isFormCharacter_of_mem_encode {pairs : List (String × String)} {character : Char}
    (among : character ∈ encode pairs) : isFormCharacter character = true := by
  have ofText {text : String} (inside : character ∈ encodeText text) :
      isFormCharacter character = true := by
    simp [isFormCharacter, isTextCharacter_of_mem_encodeText inside]
  have ofPair {pair : String × String} (inside : character ∈ encodePair pair) :
      isFormCharacter character = true := by
    rw [encodePair, List.mem_append, List.mem_cons] at inside
    rcases inside with name | rfl | value
    · exact ofText name
    · rfl
    · exact ofText value
  fun_induction encode pairs with
  | case1 => exact absurd among List.not_mem_nil
  | case2 pair => exact ofPair among
  | case3 pair next rest ih =>
      rw [List.mem_append, List.mem_cons] at among
      rcases among with first | rfl | later
      · exact ofPair first
      · rfl
      · exact ih later

end HostedCheckout.Form
