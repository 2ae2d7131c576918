import HostedCheckout.Url.Percent
import Mathlib.Data.UInt

/-!
# Encoding before decoding

Percent-encoding a text does not change what it stands for: the encoded text is
decoded to the octets that the text itself is decoded to.  For this the encoded
octets must be chosen with some care: nothing that escapes are made of is among them.
-/

namespace HostedCheckout.Percent

/-- A set of octets that can be encoded without a loss: everything that is not ASCII
belongs to it, and nothing that escapes are made of. -/
structure Lossless (reserved : UInt8 → Bool) : Prop where
  large : ∀ octet, 0x80 ≤ octet → reserved octet = true
  percent : reserved 0x25 = false
  digit : ∀ octet, (hexValue? octet).isSome = true → reserved octet = false

/-- What holds of every number below 256 holds of every octet. -/
theorem forall_octet {holds : UInt8 → Prop} (all : ∀ number : Fin 256, holds (.ofNat number)) :
    ∀ octet, holds octet := by
  intro octet
  have this := all ⟨octet.toNat, octet.toNat_lt⟩
  rwa [UInt8.ofNat_toNat] at this

theorem lossless_inPath : Lossless inPath where
  large := forall_octet (by decide +kernel)
  percent := by decide
  digit := forall_octet (by decide +kernel)

/-! ## Decoding -/

/-- Whether a text begins with a hexadecimal digit. -/
def opensDigit (bytes : Bytes) : Bool :=
  bytes.head?.any fun octet => (hexValue? octet).isSome

/-- Whether a text begins with two of them, so that a percent sign before it begins an
escape. -/
def opensEscape (bytes : Bytes) : Bool :=
  opensDigit bytes && opensDigit bytes.tail

theorem decode_of_ne {octet : UInt8} (plain : octet ≠ 0x25) (rest : Bytes) :
    decode (octet :: rest) = octet :: decode rest := by
  rw [decode]
  exact fun _ _ _ same => absurd same plain

theorem decode_of_not_opensEscape {rest : Bytes} (bare : opensEscape rest = false) :
    decode (0x25 :: rest) = 0x25 :: decode rest := by
  cases rest with
  | nil => rfl
  | cons high more =>
      cases more with
      | nil => rfl
      | cons low rest =>
          rw [decode]
          cases first : hexValue? high with
          | none => rfl
          | some =>
              cases second : hexValue? low with
              | none => rfl
              | some => simp [opensEscape, opensDigit, first, second] at bare

theorem decode_escape {high low first second : UInt8} (highDigit : hexValue? high = some first)
    (lowDigit : hexValue? low = some second) (rest : Bytes) :
    decode (0x25 :: high :: low :: rest) = (first * 16 + second) :: decode rest := by
  rw [decode, highDigit, lowDigit]

theorem length_decode_le (bytes : Bytes) : (decode bytes).length ≤ bytes.length := by
  fun_induction decode bytes <;> simp_all
  omega

/-! ## Encoding -/

/-- The octets of an octet that is written as a set demands. -/
def written (reserved : UInt8 → Bool) (octet : UInt8) : Bytes :=
  Utf8.encode (if reserved octet then escape octet else [Char.ofNat octet.toNat])

theorem encode_encode (reserved : UInt8 → Bool) (text : List Char) :
    Utf8.encode (encode reserved text) = (Utf8.encode text).flatMap (written reserved) := by
  unfold encode Utf8.encode
  rw [List.flatMap_assoc]
  rfl

theorem encode_ascii : ∀ octet : UInt8, octet < 0x80 →
    Utf8.encode [Char.ofNat octet.toNat] = [octet] :=
  forall_octet (by decide +kernel)

/-- A hexadecimal digit as an octet. -/
def digitOctet (value : Nat) : UInt8 :=
  .ofNat (hexDigit value).toNat

theorem encode_escape : ∀ octet : UInt8,
    Utf8.encode (escape octet) = [0x25, digitOctet (octet.toNat / 16), digitOctet octet.toNat] :=
  forall_octet (by decide +kernel)

theorem hexValue?_digitOctet : ∀ octet : UInt8,
    hexValue? (digitOctet (octet.toNat / 16)) = some (octet / 16) ∧
      hexValue? (digitOctet octet.toNat) = some (octet % 16) ∧
      octet / 16 * 16 + octet % 16 = octet :=
  forall_octet (by decide +kernel)

section Lossless

variable {reserved : UInt8 → Bool}

theorem written_of_reserved {octet : UInt8} (encoded : reserved octet = true) :
    written reserved octet = [0x25, digitOctet (octet.toNat / 16), digitOctet octet.toNat] := by
  simp [written, encoded, encode_escape]

/-- An escape is decoded to its octet. -/
theorem decode_written_append {octet : UInt8} (encoded : reserved octet = true) (rest : Bytes) :
    decode (written reserved octet ++ rest) = octet :: decode rest := by
  obtain ⟨high, low, value⟩ := hexValue?_digitOctet octet
  rw [written_of_reserved encoded]
  simp only [List.cons_append, List.nil_append]
  rw [decode_escape high low, value]

variable (lossless : Lossless reserved)
include lossless

theorem written_of_kept {octet : UInt8} (kept : reserved octet = false) :
    written reserved octet = [octet] := by
  have small : octet < 0x80 := by
    rw [← UInt8.not_le]
    intro large
    rw [lossless.large octet large] at kept
    exact absurd kept (Bool.false_ne_true ·.symm)
  simp [written, kept, encode_ascii octet small]

theorem opensDigit_flatMap (bytes : Bytes) :
    opensDigit (bytes.flatMap (written reserved)) = opensDigit bytes := by
  cases bytes with
  | nil => rfl
  | cons octet rest =>
      rw [List.flatMap_cons]
      cases encoded : reserved octet with
      | false =>
          rw [written_of_kept lossless encoded]
          rfl
      | true =>
          have noDigit : (hexValue? octet).isSome = false := by
            rw [Bool.eq_false_iff]
            intro isDigit
            rw [lossless.digit octet isDigit] at encoded
            exact absurd encoded Bool.false_ne_true
          rw [written_of_reserved encoded]
          simp only [opensDigit, List.cons_append, List.head?_cons, Option.any_some, noDigit]
          rfl

/-- Encoding neither makes an escape nor breaks one. -/
theorem opensEscape_flatMap (bytes : Bytes) :
    opensEscape (bytes.flatMap (written reserved)) = opensEscape bytes := by
  unfold opensEscape
  rw [opensDigit_flatMap lossless]
  cases bytes with
  | nil => rfl
  | cons octet rest =>
      by_cases isDigit : (hexValue? octet).isSome = true
      · rw [List.flatMap_cons, written_of_kept lossless (lossless.digit octet isDigit)]
        exact congrArg _ (opensDigit_flatMap lossless rest)
      · have noDigit : opensDigit (octet :: rest) = false := by simpa [opensDigit] using isDigit
        rw [noDigit, Bool.false_and, Bool.false_and]

/-- What has been encoded is decoded to what it would have been decoded to before. -/
theorem decode_flatMap_written (bytes : Bytes) :
    decode (bytes.flatMap (written reserved)) = decode bytes := by
  match bytes with
  | [] => rfl
  | octet :: rest =>
      rw [List.flatMap_cons]
      by_cases percent : octet = 0x25
      · subst percent
        rw [written_of_kept lossless lossless.percent, List.singleton_append]
        cases opens : opensEscape rest with
        | false =>
            rw [decode_of_not_opensEscape opens,
              decode_of_not_opensEscape ((opensEscape_flatMap lossless rest).trans opens),
              decode_flatMap_written rest]
        | true =>
            match rest with
            | [] | [_] => simp [opensEscape, opensDigit] at opens
            | high :: low :: later =>
                obtain ⟨highDigit, lowDigit⟩ : (hexValue? high).isSome = true ∧
                    (hexValue? low).isSome = true := by
                  simpa [opensEscape, opensDigit] using opens
                obtain ⟨first, highValue⟩ := Option.isSome_iff_exists.mp highDigit
                obtain ⟨second, lowValue⟩ := Option.isSome_iff_exists.mp lowDigit
                rw [List.flatMap_cons, List.flatMap_cons,
                  written_of_kept lossless (lossless.digit high highDigit),
                  written_of_kept lossless (lossless.digit low lowDigit)]
                simp only [List.singleton_append]
                rw [decode_escape highValue lowValue, decode_escape highValue lowValue,
                  decode_flatMap_written later]
      · rw [decode_of_ne percent]
        cases encoded : reserved octet with
        | false =>
            rw [written_of_kept lossless encoded, List.singleton_append, decode_of_ne percent,
              decode_flatMap_written rest]
        | true => rw [decode_written_append encoded, decode_flatMap_written rest]

/-- An encoded text stands for what the text stands for. -/
theorem decode_encode (text : List Char) :
    decode (Utf8.encode (encode reserved text)) = decode (Utf8.encode text) := by
  rw [encode_encode, decode_flatMap_written lossless]

end Lossless

end HostedCheckout.Percent
