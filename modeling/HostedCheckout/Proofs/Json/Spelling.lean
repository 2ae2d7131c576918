import HostedCheckout.Json.StringBody
import HostedCheckout.Proofs.Json.Scan
import HostedCheckout.Proofs.Text.Decoding

/-!
# The octets of a string that was read

Only the content of a string is decoded, not the octets that spell it.  They are UTF-8 too:
outside of an escape both are the same, an escape consists of ASCII, and what it stands for is
a whole character.  So no character of the content is broken off where an escape begins.
-/

namespace HostedCheckout.Json

/-! ## One octet of a string -/

/-- The digits of an escape that have not been judged yet. -/
def StringMode.held : StringMode → Bytes
  | .hex _ digits => digits
  | _ => []

/-- What an octet adds to a string, and the mode that it leaves. -/
inductive Judged (mode : StringMode) (octet : UInt8) : Bytes → StringMode → Prop where
  /-- The octet stands for itself. -/
  | content (plain : mode = .plain) : Judged mode octet [octet] .plain
  /-- A digit is put with the others. -/
  | gathered {next : StringMode} (escaping : mode ≠ .plain) (goesOn : next ≠ .plain)
      (held : next.held = mode.held ++ [octet]) : Judged mode octet [] next
  /-- An escape goes on, with nothing left to judge. -/
  | opened {next : StringMode} (ascii : ∀ other ∈ mode.held ++ [octet], other < 0x80)
      (goesOn : next ≠ .plain) (held : next.held = []) : Judged mode octet [] next
  /-- An escape ends. -/
  | finished (character : Char) (ascii : ∀ other ∈ mode.held ++ [octet], other < 0x80)
      (escaping : mode ≠ .plain) :
      Judged mode octet (String.utf8EncodeChar character) .plain

theorem ascii_of_hexValue? {octet : UInt8} {value : Nat} (digit : hexValue? octet = some value) :
    octet < 0x80 := by
  have below {bound : UInt8} (within : octet ≤ bound) (small : bound < 0x80) : octet < 0x80 :=
    UInt8.lt_of_le_of_lt within small
  unfold hexValue? at digit
  split_ifs at digit with decimal upper lower
  · exact below decimal.2 (by decide)
  · exact below upper.2 (by decide)
  · exact below lower.2 (by decide)

/-- Hexadecimal digits are ASCII. -/
theorem ascii_of_hexNumber? {digits : Bytes} {number : Nat}
    (spelled : hexNumber? digits = some number) : ∀ octet ∈ digits, octet < 0x80 := by
  have all (start : Nat) : (digits.foldlM
      (fun value octet => (hexValue? octet).map (value * 16 + ·)) start) = some number →
      ∀ octet ∈ digits, octet < 0x80 := by
    clear spelled
    induction digits generalizing start with
    | nil => simp
    | cons digit more ih =>
        intro folded octet among
        rw [List.foldlM_cons, Option.bind_eq_bind, Option.bind_eq_some_iff] at folded
        obtain ⟨longer, here, later⟩ := folded
        obtain ⟨value, valued, -⟩ := Option.map_eq_some_iff.mp here
        rcases List.mem_cons.mp among with rfl | after
        · exact ascii_of_hexValue? valued
        · exact ih longer later octet after
  exact all 0 spelled

/-- A short escape is a letter of ASCII for a character of ASCII. -/
theorem ascii_of_shortEscape? {letter meant : UInt8} (short : shortEscape? letter = some meant) :
    letter < 0x80 ∧ meant < 0x80 := by
  unfold shortEscape? at short
  split_ifs at short with self backspace feed line carriage tab
  all_goals obtain rfl := Option.some.inj short
  · rcases self with rfl | rfl | rfl <;> decide
  all_goals
    subst letter
    decide

/-- The digits of an escape are judged together with the last of them. -/
theorem judged_of_judgeHex {high : Option Nat} {digits : Bytes} {octet : UInt8} {added : Bytes}
    {next : StringMode} (ended : judgeHex high (digits ++ [octet]) = .ok (added, next)) :
    Judged (.hex high digits) octet added next := by
  have escaping : StringMode.hex high digits ≠ .plain := by simp
  unfold judgeHex at ended
  cases spelled : hexNumber? (digits ++ [octet]) with
  | none => simp [spelled] at ended
  | some point =>
      have ascii := ascii_of_hexNumber? spelled
      cases high with
      | some first =>
          simp only [spelled] at ended
          split_ifs at ended
          rw [Except.ok.injEq, Prod.mk.injEq] at ended
          obtain ⟨rfl, rfl⟩ := ended
          exact .finished _ ascii escaping
      | none =>
          simp only [spelled] at ended
          split_ifs at ended
          · cases ended
            exact .opened ascii (by simp) rfl
          · cases ended
            exact .finished _ ascii escaping

theorem judged_of_judgeOctet {mode : StringMode} {octet : UInt8} {added : Bytes}
    {next : StringMode} (judged : judgeOctet mode octet = .ok (added, next)) :
    Judged mode octet added next := by
  cases mode with
  | plain =>
      rw [judgeOctet] at judged
      split_ifs at judged with backslash control
      · cases judged
        subst octet
        exact .opened (by simp [StringMode.held]) (by simp) rfl
      · cases judged
        exact .content rfl
  | escape =>
      rw [judgeOctet] at judged
      split_ifs at judged with digits
      · cases judged
        subst octet
        exact .opened (by simp [StringMode.held]) (by simp) rfl
      · cases short : shortEscape? octet with
        | none => simp [short] at judged
        | some meant =>
            simp only [short, Except.ok.injEq, Prod.mk.injEq] at judged
            obtain ⟨rfl, rfl⟩ := judged
            obtain ⟨letter, stands⟩ := ascii_of_shortEscape? short
            have whole : String.utf8EncodeChar (Char.ofNat meant.toNat) = [meant] := by
              have small : meant.toNat < 0x80 := UInt8.lt_iff_toNat_lt.mp stands
              rw [Utf8.encodeChar_one (by omega), UInt8.ofNat_toNat]
            rw [← whole]
            exact .finished _ (by simpa [StringMode.held] using letter) (by simp)
  | hex high digits =>
      rw [judgeOctet] at judged
      split_ifs at judged with few
      · cases judged
        exact .gathered (by simp) (by simp) rfl
      · exact judged_of_judgeHex judged
  | pair high =>
      rw [judgeOctet] at judged
      split_ifs at judged with backslash
      cases judged
      subst octet
      exact .opened (by simp [StringMode.held]) (by simp) rfl
  | pairEscape high =>
      rw [judgeOctet] at judged
      split_ifs at judged with digits
      cases judged
      subst octet
      exact .opened (by simp [StringMode.held]) (by simp) rfl

/-! ## Octets that spell a content -/

/-- From some mode on, octets spell the content of a string up to its closing quote. -/
inductive Spells : StringMode → Bytes → Bytes → Prop where
  | done : Spells .plain [] []
  | octet {mode next : StringMode} {octet : UInt8} {added written content : Bytes}
      (judged : Judged mode octet added next) (rest : Spells next written content) :
      Spells mode (octet :: written) (added ++ content)

theorem StringMode.eq_plain_of_closes {mode : StringMode} {octet : UInt8}
    (closes : mode.closes octet = true) : mode = .plain ∧ octet = 0x22 := by
  cases mode with
  | plain => exact ⟨rfl, by simpa [StringMode.closes] using closes⟩
  | _ => simp [StringMode.closes] at closes

/-- A string that is closed was spelled by the octets up to its closing quote. -/
theorem exists_spells_of_stringBody {mode : StringMode} {taken octets content rest : Bytes}
    (closed : stringBody mode taken octets = .closed content rest) :
    ∃ written added, octets = written ++ 0x22 :: rest ∧ content = taken.reverse ++ added ∧
      Spells mode written added := by
  induction octets generalizing mode taken with
  | nil => simp [stringBody] at closed
  | cons octet more ih =>
      rw [stringBody] at closed
      split at closed
      · rename_i closes
        obtain ⟨rfl, rfl⟩ := StringMode.eq_plain_of_closes closes
        obtain ⟨rfl, rfl⟩ := StringEnd.closed.inj closed
        exact ⟨[], [], rfl, (List.append_nil _).symm, .done⟩
      · split at closed
        · simp at closed
        · rename_i added next judged
          obtain ⟨written, content, rfl, rfl, spells⟩ := ih closed
          refine ⟨octet :: written, added ++ content, rfl, ?_,
            .octet (judged_of_judgeOctet judged) spells⟩
          rw [List.reverse_append, List.reverse_reverse, List.append_assoc]

end HostedCheckout.Json

namespace HostedCheckout.Utf8

/-! ## Whole characters -/

theorem unbroken_append_encode (characters : List Char) {rest : Bytes} :
    Unbroken none (encode characters ++ rest) ↔ Unbroken none rest := by
  induction characters with
  | nil => rfl
  | cons character more ih =>
      rw [encode_cons, List.append_assoc, Unbroken, scan_encodeChar, List.mem_cons]
      simpa [Unbroken] using ih

theorem unbroken_append_ascii {octets rest : Bytes} (ascii : ∀ octet ∈ octets, octet < 0x80) :
    Unbroken none (octets ++ rest) ↔ Unbroken none rest := by
  rw [← encode_ascii ascii]
  exact unbroken_append_encode _

/-- A character begins with an octet that continues no other. -/
theorem exists_head_encodeChar (character : Char) :
    ∃ octet more, String.utf8EncodeChar character = octet :: more ∧ ¬ IsTail octet := by
  have valid : character.val.toNat < 0x110000 := by
    have := character.valid
    rcases this with small | ⟨-, large⟩ <;> omega
  unfold String.utf8EncodeChar IsTail
  dsimp only
  split_ifs <;>
    exact ⟨_, _, rfl, by rw [UInt8.toNat_ofNat_of_lt' (by change _ < 256; omega)]; omega⟩

/-- Where a character begins, none is pending. -/
theorem eq_none_of_unbroken {pending : Option Pending} {taken : Bytes}
    (awaits : Awaits pending taken) {character : Char} {rest : Bytes}
    (unbroken : Unbroken pending (String.utf8EncodeChar character ++ rest)) : pending = none := by
  obtain ⟨octet, more, begins, notTail⟩ := exists_head_encodeChar character
  rw [begins, List.cons_append, unbroken_cons] at unbroken
  cases pending with
  | none => rfl
  | some pending =>
      obtain ⟨bits, owed⟩ := pending
      cases owed with
      | nil => exact absurd rfl awaits.owes
      | cons range more =>
          have outside : ¬ (range.1 ≤ octet ∧ octet ≤ range.2) := fun within =>
            notTail (awaits.tails range List.mem_cons_self octet within)
          have broken := unbroken.1
          unfold step at broken
          dsimp only at broken
          rw [if_neg outside] at broken
          exact absurd List.mem_cons_self broken

end HostedCheckout.Utf8

namespace HostedCheckout.Json

open Utf8

/-- Octets that spell a content without a broken run have none themselves, and an escape stands
between characters. -/
theorem Spells.unbroken {mode : StringMode} {written content : Bytes}
    (spells : Spells mode written content) {pending : Option Pending} {taken : Bytes}
    (awaits : Awaits pending taken) (intact : Unbroken pending content) :
    Unbroken pending (mode.held ++ written) ∧ (mode ≠ .plain → pending = none) := by
  induction spells generalizing pending taken with
  | done => exact ⟨intact, fun escaping => absurd rfl escaping⟩
  | @octet mode next octet added written content judged _ ih =>
      have regroup : mode.held ++ octet :: written = (mode.held ++ [octet]) ++ written := by simp
      cases judged with
      | content plain =>
          subst mode
          obtain ⟨here, later⟩ := unbroken_cons.mp intact
          obtain ⟨-, left, -, awaitsLeft⟩ := awaits_step awaits here
          exact ⟨unbroken_cons.mpr ⟨here, (ih awaitsLeft later).1⟩,
            fun escaping => absurd rfl escaping⟩
      | gathered escaping goesOn held =>
          obtain ⟨whole, between⟩ := ih awaits intact
          rw [held] at whole
          exact ⟨regroup ▸ whole, fun _ => between goesOn⟩
      | opened ascii goesOn held =>
          obtain ⟨whole, between⟩ := ih awaits intact
          obtain rfl := between goesOn
          rw [held, List.nil_append] at whole
          exact ⟨regroup ▸ (unbroken_append_ascii ascii).mpr whole, fun _ => rfl⟩
      | finished character ascii escaping =>
          obtain rfl := eq_none_of_unbroken awaits intact
          have later : Unbroken none content := by
            have one : Unbroken none (encode [character] ++ content) ↔ Unbroken none content :=
              unbroken_append_encode [character]
            rw [encode_cons, encode_nil, List.append_nil] at one
            exact one.mp intact
          have awaitsNone : Awaits none [] := rfl
          obtain ⟨whole, -⟩ := ih awaitsNone later
          exact ⟨regroup ▸ (unbroken_append_ascii ascii).mpr whole, fun _ => rfl⟩

/-- A string is read from the octets of a text, and ends with a quote. -/
theorem Scan.exists_encode_of_string {octets rest : Bytes} {text : String}
    (taken : Scan.string octets = (.ok text, rest)) :
    ∃ characters, octets = Utf8.encode characters ++ 0x22 :: rest := by
  unfold Scan.string at taken
  rw [get_bind] at taken
  cases body : stringBody .plain [] octets with
  | stopped fault left =>
      simp only [body] at taken
      cases taken
  | closed content left =>
      simp only [body, set_bind] at taken
      cases spelled : content.toString? with
      | none =>
          simp only [spelled] at taken
          cases taken
      | some decoded =>
          simp only [spelled, pure_eq] at taken
          obtain ⟨-, rfl⟩ := taken
          obtain ⟨written, added, rfl, same, spells⟩ := exists_spells_of_stringBody body
          rw [List.reverse_nil, List.nil_append] at same
          subst content
          have intact : Unbroken none added := by
            rw [Bytes.toString?_eq_some_iff] at spelled
            rw [spelled]
            exact unbroken_encode _
          have awaits : Awaits none [] := rfl
          obtain ⟨characters, same⟩ :=
            exists_encode_of_unbroken awaits (spells.unbroken awaits intact).1
          exact ⟨characters, by rw [← same]; rfl⟩

end HostedCheckout.Json
