import HostedCheckout.Json.Reader
import HostedCheckout.Json.Writer
import HostedCheckout.Proofs.Json.Scan
import HostedCheckout.Proofs.Text.Utf8

/-!
# Reading strings that were written

What a character is written as inside a string adds its octets to what has been taken,
whatever follows.  So a string is read as the text that it was written for.
-/

namespace HostedCheckout.Json

/-- Octets that stand for themselves inside a string. -/
def isPlainOctet (octet : UInt8) : Bool :=
  octet != 0x22 && octet != 0x5C && 0x20 ≤ octet

/-- Whether a character is written as it is. -/
def isPlainChar (character : Char) : Bool :=
  character != '"' && character != '\\' && 0x20 ≤ character.toNat

/-! ## Plain characters -/

theorem stringBody_plain_append {octets : Bytes} (plain : ∀ octet ∈ octets, isPlainOctet octet)
    (taken rest : Bytes) :
    stringBody .plain taken (octets ++ rest) =
      stringBody .plain (octets.reverse ++ taken) rest := by
  induction octets generalizing taken with
  | nil => rfl
  | cons octet more ih =>
      have here := plain octet List.mem_cons_self
      simp only [isPlainOctet, Bool.and_eq_true, bne_iff_ne, ne_eq, decide_eq_true_eq] at here
      obtain ⟨⟨unquoted, unescaped⟩, printable⟩ := here
      have stays : StringMode.closes .plain octet = false := by
        simpa [StringMode.closes] using unquoted
      have judged : judgeOctet .plain octet = .ok ([octet], .plain) := by
        rw [judgeOctet, if_neg unescaped, if_neg (UInt8.not_lt.mpr printable)]
      rw [List.cons_append, stringBody, stays, judged]
      simp only [Bool.false_eq_true, if_false]
      rw [List.reverse_singleton, List.singleton_append,
        ih fun octet among => plain octet (List.mem_cons_of_mem _ among)]
      simp

/-- An octet of a character is the character itself, or is outside of ASCII. -/
theorem octet_cases {character : Char} {octet : UInt8}
    (among : octet ∈ String.utf8EncodeChar character) :
    octet.toNat = character.toNat ∨ 0x80 ≤ octet := by
  have valid : character.val.toNat < 0x110000 := by
    have := character.valid
    rcases this with small | ⟨-, large⟩ <;> omega
  rw [String.utf8EncodeChar] at among
  split at among
  · rename_i ascii
    rw [List.mem_singleton] at among
    refine .inl ?_
    rw [among, UInt8.toNat_ofNat_of_lt' (by change _ < 256; omega)]
    rfl
  · refine .inr ?_
    split at among
    · simp only [List.mem_cons, List.not_mem_nil, or_false] at among
      rcases among with rfl | rfl <;> exact Utf8.large_ofNat (by omega) (by omega)
    · split at among
      · simp only [List.mem_cons, List.not_mem_nil, or_false] at among
        rcases among with rfl | rfl | rfl <;> exact Utf8.large_ofNat (by omega) (by omega)
      · simp only [List.mem_cons, List.not_mem_nil, or_false] at among
        rcases among with rfl | rfl | rfl | rfl <;> exact Utf8.large_ofNat (by omega) (by omega)

theorem isPlainOctet_of_isPlainChar {character : Char} (plain : isPlainChar character = true)
    {octet : UInt8} (among : octet ∈ String.utf8EncodeChar character) :
    isPlainOctet octet = true := by
  simp only [isPlainChar, Bool.and_eq_true, bne_iff_ne, ne_eq, decide_eq_true_eq] at plain
  obtain ⟨⟨unquoted, unescaped⟩, printable⟩ := plain
  simp only [isPlainOctet, Bool.and_eq_true, bne_iff_ne, ne_eq, decide_eq_true_eq]
  rcases octet_cases among with same | large
  · refine ⟨⟨fun quote => unquoted ?_, fun backslash => unescaped ?_⟩, ?_⟩
    · rw [← Char.toNat_inj, ← same, quote]
      rfl
    · rw [← Char.toNat_inj, ← same, backslash]
      rfl
    · rw [UInt8.le_iff_toNat_le, same]
      exact printable
  · rw [UInt8.le_iff_toNat_le] at large ⊢
    refine ⟨⟨?_, ?_⟩, Nat.le_trans (by decide) large⟩
    · rintro rfl
      exact absurd large (by decide)
    · rintro rfl
      exact absurd large (by decide)

/-! ## Escapes -/

/-- A hexadecimal digit as an octet. -/
def hexOctet (value : Nat) : UInt8 :=
  .ofNat (hexDigit value).toNat

theorem encode_hexDigits : ∀ point < 0x20,
    Utf8.encode ['\\', 'u', '0', '0', hexDigit (point / 16), hexDigit point] =
      [0x5C, 0x75, 0x30, 0x30, hexOctet (point / 16), hexOctet point] := by
  decide

theorem hexNumber?_hexOctets : ∀ point < 0x20,
    hexNumber? [0x30, 0x30, hexOctet (point / 16), hexOctet point] = some point := by
  decide

theorem judgeHex_hexOctets {point : Nat} (small : point < 0x20) :
    judgeHex none [0x30, 0x30, hexOctet (point / 16), hexOctet point] =
      .ok (pointOctets point, .plain) := by
  have notLow : isLowSurrogate point = false := by
    rw [isLowSurrogate, Bool.and_eq_false_iff]
    exact .inl (by simp; omega)
  have notHigh : isHighSurrogate point = false := by
    rw [isHighSurrogate, Bool.and_eq_false_iff]
    exact .inl (by simp; omega)
  simp [judgeHex, hexNumber?_hexOctets point small, notLow, notHigh]

theorem stringBody_hexEscape {character : Char} (small : character.toNat < 0x20)
    (taken rest : Bytes) :
    stringBody .plain taken
        (Utf8.encode ['\\', 'u', '0', '0', hexDigit (character.toNat / 16),
          hexDigit character.toNat] ++ rest) =
      stringBody .plain ((String.utf8EncodeChar character).reverse ++ taken) rest := by
  have judged := judgeHex_hexOctets small
  rw [pointOctets, Char.ofNat_toNat] at judged
  rw [encode_hexDigits _ small]
  simp [stringBody, StringMode.closes, judgeOctet, judged]

/-! ## Characters and texts -/

/-- What a character is written as adds its octets. -/
theorem stringBody_escapeChar (character : Char) (taken rest : Bytes) :
    stringBody .plain taken (Utf8.encode (escapeChar character) ++ rest) =
      stringBody .plain ((String.utf8EncodeChar character).reverse ++ taken) rest := by
  fun_cases escapeChar character
  case case8 small => exact stringBody_hexEscape small taken rest
  case case9 unquoted unescaped _ _ _ _ _ printable =>
    have plain : isPlainChar character = true := by
      simp [isPlainChar, unquoted, unescaped, Nat.le_of_not_lt printable]
    rw [Utf8.encode_cons, Utf8.encode_nil, List.append_nil]
    exact stringBody_plain_append
      (fun octet among => isPlainOctet_of_isPlainChar plain among) taken rest
  -- An escape of one letter is for a single character.
  all_goals
    subst character
    rfl

theorem stringBody_flatMap_escapeChar (characters : List Char) (taken rest : Bytes) :
    stringBody .plain taken (Utf8.encode (characters.flatMap escapeChar) ++ 0x22 :: rest) =
      .closed (taken.reverse ++ Utf8.encode characters) rest := by
  induction characters generalizing taken with
  | nil => simp [stringBody, StringMode.closes]
  | cons character more ih =>
      rw [List.flatMap_cons, Utf8.encode_append, List.append_assoc, stringBody_escapeChar, ih,
        Utf8.encode_cons]
      simp

namespace Scan

/-- The octets of a string after its opening quote. -/
theorem encode_stringText (text : String) :
    Utf8.encode (stringText text) =
      0x22 :: (Utf8.encode (text.toList.flatMap escapeChar) ++ [0x22]) := by
  rw [stringText, List.cons_append, Utf8.encode_cons, Utf8.encode_append]
  rfl

/-- A string is read as the text that it was written for. -/
theorem key_stringText (text : String) (rest : Bytes) :
    key (Utf8.encode (stringText text) ++ rest) = (.ok text, rest) := by
  have body := stringBody_flatMap_escapeChar text.toList [] rest
  rw [List.reverse_nil, List.nil_append] at body
  rw [encode_stringText, List.cons_append, List.append_assoc, List.singleton_append]
  simp [key, string, body, Bytes.toString?_encode, String.ofList_toList]

end Scan

end HostedCheckout.Json
