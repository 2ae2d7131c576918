import HostedCheckout.Text.Utf8
import Mathlib.Tactic.Common

/-!
# Decoding what was encoded

The octets of a text are decoded to the text, strictly and leniently: the first
octet of a character promises as many as follow, and the last one finishes it.
-/

namespace HostedCheckout

namespace Utf8

/-- The bits of a character, when the octets that it owes have been read. -/
def finished (bits : Nat) (octets : Bytes) : Nat :=
  octets.foldl (fun longer octet => longer * 64 + octet.toNat % 64) bits

/-- Octets that are owed finish a character. -/
theorem scan_owed {owed : List (UInt8 × UInt8)} {octets : Bytes} (pending : owed ≠ [])
    (paid : List.Forall₂ (fun range octet => range.1 ≤ octet ∧ octet ≤ range.2) owed octets)
    (bits : Nat) (rest : Bytes) :
    scan (some ⟨bits, owed⟩) (octets ++ rest) =
      some (Char.ofNat (finished bits octets)) :: scan none rest := by
  induction paid generalizing bits with
  | nil => exact absurd rfl pending
  | @cons range octet owed octets within later ih =>
      rw [List.cons_append, scan, step, if_pos within]
      cases later with
      | nil => rfl
      | cons => exact ih (List.cons_ne_nil _ _) _

theorem scan_of_lead {octet : UInt8} {bits : Nat} {owed : List (UInt8 × UInt8)} {octets : Bytes}
    (promised : lead? octet = some ⟨bits, owed⟩) (pending : owed ≠ [])
    (paid : List.Forall₂ (fun range octet => range.1 ≤ octet ∧ octet ≤ range.2) owed octets)
    (large : 0x80 ≤ octet) (rest : Bytes) :
    scan none (octet :: octets ++ rest) =
      some (Char.ofNat (finished bits octets)) :: scan none rest := by
  rw [List.cons_append, scan, step, first, if_neg (UInt8.not_lt.mpr large), promised]
  exact scan_owed pending paid bits rest

theorem scan_of_ascii {octet : UInt8} (small : octet < 0x80) (rest : Bytes) :
    scan none (octet :: rest) = some (Char.ofNat octet.toNat) :: scan none rest := by
  rw [scan, step, first, if_pos small]
  rfl

/-! ## The octets of a character -/

theorem lead?_ofNat {number : Nat} (small : number < 256) :
    lead? (.ofNat number) =
      if 0xC2 ≤ number ∧ number ≤ 0xDF then some ⟨number % 32, [tail]⟩
      else if number = 0xE0 then some ⟨0, [(0xA0, 0xBF), tail]⟩
      else if number = 0xED then some ⟨0xD, [(0x80, 0x9F), tail]⟩
      else if 0xE1 ≤ number ∧ number ≤ 0xEF then some ⟨number % 16, [tail, tail]⟩
      else if number = 0xF0 then some ⟨0, [(0x90, 0xBF), tail, tail]⟩
      else if number = 0xF4 then some ⟨4, [(0x80, 0x8F), tail, tail]⟩
      else if 0xF1 ≤ number ∧ number ≤ 0xF3 then some ⟨number % 8, [tail, tail, tail]⟩
      else none := by
  unfold lead?
  simp only [UInt8.le_iff_toNat_le, ← UInt8.toNat_inj, UInt8.toNat_ofNat_of_lt' small]
  rfl

theorem within_ofNat {low high : UInt8} {number : Nat} (small : number < 256)
    (above : low.toNat ≤ number) (below : number ≤ high.toNat) :
    low ≤ .ofNat number ∧ .ofNat number ≤ high := by
  rw [UInt8.le_iff_toNat_le, UInt8.le_iff_toNat_le, UInt8.toNat_ofNat_of_lt' small]
  exact ⟨above, below⟩

theorem finished_cons (bits : Nat) (octet : UInt8) (octets : Bytes) :
    finished bits (octet :: octets) = finished (bits * 64 + octet.toNat % 64) octets := rfl

theorem finished_nil (bits : Nat) : finished bits [] = bits := rfl

/-- A continuation octet adds six bits. -/
theorem toNat_ofNat_tail (number : Nat) :
    (UInt8.ofNat (number % 64 + 128)).toNat % 64 = number % 64 := by
  rw [UInt8.toNat_ofNat_of_lt' (by change _ < 256; omega)]
  omega

theorem within_tail (number : Nat) :
    tail.1 ≤ .ofNat (number % 64 + 128) ∧ .ofNat (number % 64 + 128) ≤ tail.2 :=
  within_ofNat (by omega) (by change 128 ≤ _; omega) (by change _ ≤ 191; omega)

theorem large_ofNat {number : Nat} (small : number < 256) (large : 128 ≤ number) :
    0x80 ≤ UInt8.ofNat number := by
  rw [UInt8.le_iff_toNat_le, UInt8.toNat_ofNat_of_lt' small]
  exact large

section Lengths

variable {number : Nat} (rest : Bytes)

theorem scan_two (low : 127 < number) (high : number ≤ 2047) :
    scan none ([.ofNat (number / 64 % 32 + 192), .ofNat (number % 64 + 128)] ++ rest) =
      some (Char.ofNat number) :: scan none rest := by
  have promised : lead? (.ofNat (number / 64 % 32 + 192)) = some ⟨number / 64, [tail]⟩ := by
    rw [lead?_ofNat (by omega), if_pos (by omega)]
    congr 2
    omega
  have value : finished (number / 64) [.ofNat (number % 64 + 128)] = number := by
    rw [finished_cons, finished_nil, toNat_ofNat_tail]
    omega
  have scanned := scan_of_lead promised (List.cons_ne_nil _ _) (.cons (within_tail number) .nil)
    (large_ofNat (by omega) (by omega)) rest
  rwa [value] at scanned

theorem scan_three (low : 2047 < number) (high : number ≤ 65535)
    (valid : number < 0xD800 ∨ 0xDFFF < number) :
    scan none ([.ofNat (number / 4096 % 16 + 224), .ofNat (number / 64 % 64 + 128),
        .ofNat (number % 64 + 128)] ++ rest) =
      some (Char.ofNat number) :: scan none rest := by
  -- After `E0` and `ED` the second octet is narrowed; everywhere else it is an ordinary one.
  obtain ⟨range, promised, within⟩ : ∃ range,
      lead? (.ofNat (number / 4096 % 16 + 224)) = some ⟨number / 4096, [range, tail]⟩ ∧
        range.1 ≤ .ofNat (number / 64 % 64 + 128) ∧
        .ofNat (number / 64 % 64 + 128) ≤ range.2 := by
    rw [lead?_ofNat (by omega), if_neg (by omega)]
    by_cases least : number / 4096 = 0
    · rw [if_pos (by omega), least]
      exact ⟨_, rfl, within_ofNat (by omega) (by change 160 ≤ _; omega) (by change _ ≤ 191; omega)⟩
    · rw [if_neg (by omega)]
      by_cases surrogate : number / 4096 = 13
      · rw [if_pos (by omega), surrogate]
        exact ⟨_, rfl,
          within_ofNat (by omega) (by change 128 ≤ _; omega) (by change _ ≤ 159; omega)⟩
      · have bits : (number / 4096 % 16 + 224) % 16 = number / 4096 := by omega
        rw [if_neg (by omega), if_pos (by omega), bits]
        exact ⟨_, rfl, within_tail _⟩
  have value : finished (number / 4096)
      [.ofNat (number / 64 % 64 + 128), .ofNat (number % 64 + 128)] = number := by
    rw [finished_cons, finished_cons, finished_nil, toNat_ofNat_tail, toNat_ofNat_tail]
    omega
  have scanned := scan_of_lead promised (List.cons_ne_nil _ _)
    (.cons within (.cons (within_tail number) .nil)) (large_ofNat (by omega) (by omega)) rest
  rwa [value] at scanned

theorem scan_four (low : 65535 < number) (high : number < 0x110000) :
    scan none ([.ofNat (number / 262144 % 8 + 240), .ofNat (number / 4096 % 64 + 128),
        .ofNat (number / 64 % 64 + 128), .ofNat (number % 64 + 128)] ++ rest) =
      some (Char.ofNat number) :: scan none rest := by
  -- Here it is narrowed after `F0` and `F4`.
  obtain ⟨range, promised, within⟩ : ∃ range,
      lead? (.ofNat (number / 262144 % 8 + 240)) = some ⟨number / 262144, [range, tail, tail]⟩ ∧
        range.1 ≤ .ofNat (number / 4096 % 64 + 128) ∧
        .ofNat (number / 4096 % 64 + 128) ≤ range.2 := by
    rw [lead?_ofNat (by omega), if_neg (by omega), if_neg (by omega), if_neg (by omega),
      if_neg (by omega)]
    by_cases least : number / 262144 = 0
    · rw [if_pos (by omega), least]
      exact ⟨_, rfl, within_ofNat (by omega) (by change 144 ≤ _; omega) (by change _ ≤ 191; omega)⟩
    · rw [if_neg (by omega)]
      by_cases most : number / 262144 = 4
      · rw [if_pos (by omega), most]
        exact ⟨_, rfl,
          within_ofNat (by omega) (by change 128 ≤ _; omega) (by change _ ≤ 143; omega)⟩
      · have bits : (number / 262144 % 8 + 240) % 8 = number / 262144 := by omega
        rw [if_neg (by omega), if_pos (by omega), bits]
        exact ⟨_, rfl, within_tail _⟩
  have value : finished (number / 262144)
      [.ofNat (number / 4096 % 64 + 128), .ofNat (number / 64 % 64 + 128),
        .ofNat (number % 64 + 128)] = number := by
    rw [finished_cons, finished_cons, finished_cons, finished_nil, toNat_ofNat_tail,
      toNat_ofNat_tail, toNat_ofNat_tail]
    omega
  have scanned := scan_of_lead promised (List.cons_ne_nil _ _)
    (.cons within (.cons (within_tail (number / 64)) (.cons (within_tail number) .nil)))
    (large_ofNat (by omega) (by omega)) rest
  rwa [value] at scanned

end Lengths

theorem scan_encodeChar (character : Char) (rest : Bytes) :
    scan none (String.utf8EncodeChar character ++ rest) = some character :: scan none rest := by
  have valid : character.val.toNat < 0xD800 ∨
      0xDFFF < character.val.toNat ∧ character.val.toNat < 0x110000 := character.valid
  have self : Char.ofNat character.val.toNat = character := Char.ofNat_toNat character
  rw [String.utf8EncodeChar]
  split
  · rename_i ascii
    have small : UInt8.ofNat character.val.toNat < 0x80 := by
      rw [UInt8.lt_iff_toNat_lt, UInt8.toNat_ofNat_of_lt' (by change _ < 256; omega)]
      exact Nat.lt_succ_of_le ascii
    have scanned := scan_of_ascii small rest
    rwa [UInt8.toNat_ofNat_of_lt' (by change _ < 256; omega), self] at scanned
  · split
    · rename_i two
      rw [scan_two rest (by omega) two, self]
    · split
      · rename_i three
        rw [scan_three rest (by omega) three (by omega), self]
      · rw [scan_four rest (by omega) (by omega), self]

/-! ## The octets of a text -/

theorem scan_encode (characters : List Char) :
    scan none (encode characters) = characters.map some := by
  induction characters with
  | nil => rfl
  | cons character rest ih =>
      rw [encode, List.flatMap_cons, scan_encodeChar, List.map_cons]
      exact congrArg _ ih

theorem decode?_encode (characters : List Char) :
    decode? (encode characters) = some characters := by
  rw [decode?, scan_encode]
  induction characters with
  | nil => rfl
  | cons character rest ih => simp [ih]

theorem encode_injective {first second : List Char} (same : encode first = encode second) :
    first = second := by
  have decoded := congrArg decode? same
  rw [decode?_encode, decode?_encode] at decoded
  exact Option.some.inj decoded

theorem decodeLossy_encode (characters : List Char) :
    decodeLossy (encode characters) = characters := by
  rw [decodeLossy, scan_encode, List.map_map]
  exact List.map_id'' (fun _ => rfl) characters

@[simp] theorem encode_nil : encode [] = [] := rfl

@[simp] theorem encode_append (first second : List Char) :
    encode (first ++ second) = encode first ++ encode second :=
  List.flatMap_append

theorem encode_cons (character : Char) (rest : List Char) :
    encode (character :: rest) = String.utf8EncodeChar character ++ encode rest :=
  List.flatMap_cons

end Utf8

namespace Bytes

@[simp] theorem ofString_ofList (characters : List Char) :
    ofString (String.ofList characters) = Utf8.encode characters := by
  rw [ofString, String.toList_ofList]

/-- The octets of a text spell it. -/
theorem toString?_encode (characters : List Char) :
    toString? (Utf8.encode characters) = some (String.ofList characters) := by
  rw [toString?, Utf8.decode?_encode, Option.map_some]

theorem toStringLossy_ofString (text : String) : (ofString text).toStringLossy = text := by
  rw [toStringLossy, ofString, Utf8.decodeLossy_encode, String.ofList_toList]

end Bytes

end HostedCheckout
