import HostedCheckout.Proofs.Text.Utf8
import Mathlib.Data.List.Forall2
import Mathlib.Tactic.SplitIfs

/-!
# Encoding what was decoded

Octets that are decoded without a broken run are the octets of the text that they are decoded
to.  The invariant is about a character of which some octets have been read: whatever octets it
still owes, all of them together are the octets of the character that they finish.
-/

namespace HostedCheckout

namespace Utf8

/-! ## The octets of a number -/

theorem toNat_ofNat (number : Nat)
    (valid : number < 0xD800 ∨ 0xDFFF < number ∧ number < 0x110000) :
    (Char.ofNat number).val.toNat = number := by
  have isValid : number.isValidChar := valid
  rw [Char.ofNat, dif_pos isValid]
  rfl

section Lengths

variable {number : Nat}

theorem encodeChar_one (low : number ≤ 127) :
    String.utf8EncodeChar (Char.ofNat number) = [.ofNat number] := by
  simp only [String.utf8EncodeChar, toNat_ofNat number (by omega), if_pos low]

theorem encodeChar_two (low : 127 < number) (high : number ≤ 2047) :
    String.utf8EncodeChar (Char.ofNat number) =
      [.ofNat (number / 64 % 32 + 192), .ofNat (number % 64 + 128)] := by
  simp only [String.utf8EncodeChar, toNat_ofNat number (by omega),
    if_neg (Nat.not_le.mpr low), if_pos high]

theorem encodeChar_three (low : 2047 < number) (high : number ≤ 65535)
    (valid : number < 0xD800 ∨ 0xDFFF < number) :
    String.utf8EncodeChar (Char.ofNat number) =
      [.ofNat (number / 4096 % 16 + 224), .ofNat (number / 64 % 64 + 128),
        .ofNat (number % 64 + 128)] := by
  have two : ¬ number ≤ 127 := by omega
  simp only [String.utf8EncodeChar, toNat_ofNat number (by omega), if_neg two,
    if_neg (Nat.not_le.mpr low), if_pos high]

theorem encodeChar_four (low : 65535 < number) (high : number < 0x110000) :
    String.utf8EncodeChar (Char.ofNat number) =
      [.ofNat (number / 262144 % 8 + 240), .ofNat (number / 4096 % 64 + 128),
        .ofNat (number / 64 % 64 + 128), .ofNat (number % 64 + 128)] := by
  have two : ¬ number ≤ 127 := by omega
  have three : ¬ number ≤ 2047 := by omega
  simp only [String.utf8EncodeChar, toNat_ofNat number (by omega), if_neg two,
    if_neg three, if_neg (Nat.not_le.mpr low)]

end Lengths

theorem ofNat_eq_of_toNat {number : Nat} (octet : UInt8) (same : number = octet.toNat) :
    UInt8.ofNat number = octet := by
  rw [same, UInt8.ofNat_toNat]

/-- A number of ASCII is an octet itself. -/
theorem encode_ascii {octets : Bytes} (ascii : ∀ octet ∈ octets, octet < 0x80) :
    encode (octets.map fun octet => Char.ofNat octet.toNat) = octets := by
  induction octets with
  | nil => rfl
  | cons octet rest ih =>
      have small : octet.toNat < 0x80 := UInt8.lt_iff_toNat_lt.mp (ascii octet List.mem_cons_self)
      rw [List.map_cons, encode_cons, encodeChar_one (by omega), UInt8.ofNat_toNat,
        ih fun other among => ascii other (List.mem_cons_of_mem octet among)]
      rfl

/-! ## Characters that have begun -/

/-- Whether an octet lies in a range. -/
def Within (range : UInt8 × UInt8) (octet : UInt8) : Prop :=
  range.1 ≤ octet ∧ octet ≤ range.2

/-- Whether an octet can only continue a character. -/
def IsTail (octet : UInt8) : Prop :=
  0x80 ≤ octet.toNat ∧ octet.toNat ≤ 0xBF

/-- A character of which some octets have been read. -/
structure Pending.Begins (pending : Pending) (taken : Bytes) : Prop where
  owes : pending.owed ≠ []
  tails : ∀ range ∈ pending.owed, ∀ octet, Within range octet → IsTail octet
  pays : ∀ paid, List.Forall₂ Within pending.owed paid →
    String.utf8EncodeChar (Char.ofNat (finished pending.bits paid)) = taken ++ paid

theorem within_iff_toNat {low high octet : UInt8} :
    Within (low, high) octet ↔ low.toNat ≤ octet.toNat ∧ octet.toNat ≤ high.toNat := by
  simp only [Within, UInt8.le_iff_toNat_le]

theorem isTail_of_within_tail {octet : UInt8} (within : Within tail octet) : IsTail octet :=
  within_iff_toNat.mp within

/-- Ranges after a narrowed one are ordinary. -/
theorem isTail_of_mem {range : UInt8 × UInt8}
    (narrowed : ∀ octet, Within range octet → IsTail octet) (count : Nat) :
    ∀ other ∈ range :: List.replicate count tail,
      ∀ octet, Within other octet → IsTail octet := by
  intro other among octet within
  rcases List.mem_cons.mp among with rfl | later
  · exact narrowed octet within
  · obtain rfl := List.eq_of_mem_replicate later
    exact isTail_of_within_tail within

theorem begins_two {octet : UInt8} (low : 0xC2 ≤ octet.toNat) (high : octet.toNat ≤ 0xDF) :
    Pending.Begins ⟨octet.toNat % 32, [tail]⟩ [octet] := by
  refine ⟨List.cons_ne_nil _ _, isTail_of_mem (fun _ => isTail_of_within_tail) 0,
    fun paid pays => ?_⟩
  obtain _ | ⟨second, _ | _⟩ := pays
  rename_i last
  have lastTail := isTail_of_within_tail second
  unfold IsTail at lastTail
  simp only [finished_cons, finished_nil]
  rw [encodeChar_two (by omega) (by omega), ofNat_eq_of_toNat octet (by omega),
    ofNat_eq_of_toNat last (by omega)]
  rfl

/-- The second octet of three is narrowed where an ordinary one would allow overlong forms or
surrogates. -/
theorem begins_three {octet : UInt8} {bits : Nat} {range : UInt8 × UInt8}
    (lead : octet.toNat = bits + 0xE0) (small : bits < 16)
    (narrowed : ∀ second, Within range second → IsTail second ∧
      32 ≤ bits * 64 + second.toNat % 64 ∧
      (bits * 64 + second.toNat % 64 < 0x360 ∨ 0x37F < bits * 64 + second.toNat % 64)) :
    Pending.Begins ⟨bits, [range, tail]⟩ [octet] := by
  refine ⟨List.cons_ne_nil _ _,
    isTail_of_mem (fun second within => (narrowed second within).1) 1,
    fun paid pays => ?_⟩
  obtain _ | ⟨second, _ | ⟨third, _ | _⟩⟩ := pays
  rename_i middle last
  obtain ⟨middleTail, longer, valid⟩ := narrowed middle second
  have lastTail := isTail_of_within_tail third
  unfold IsTail at middleTail lastTail
  simp only [finished_cons, finished_nil]
  rw [encodeChar_three (by omega) (by omega) (by omega),
    ofNat_eq_of_toNat octet (by omega), ofNat_eq_of_toNat middle (by omega),
    ofNat_eq_of_toNat last (by omega)]
  rfl

/-- The second octet of four is narrowed where an ordinary one would allow overlong forms or
numbers that are too large. -/
theorem begins_four {octet : UInt8} {bits : Nat} {range : UInt8 × UInt8}
    (lead : octet.toNat = bits + 0xF0)
    (narrowed : ∀ second, Within range second → IsTail second ∧
      16 ≤ bits * 64 + second.toNat % 64 ∧ bits * 64 + second.toNat % 64 < 0x110) :
    Pending.Begins ⟨bits, [range, tail, tail]⟩ [octet] := by
  refine ⟨List.cons_ne_nil _ _,
    isTail_of_mem (fun second within => (narrowed second within).1) 2,
    fun paid pays => ?_⟩
  obtain _ | ⟨second, _ | ⟨third, _ | ⟨fourth, _ | _⟩⟩⟩ := pays
  rename_i upper lower last
  obtain ⟨upperTail, longer, valid⟩ := narrowed upper second
  have lowerTail := isTail_of_within_tail third
  have lastTail := isTail_of_within_tail fourth
  unfold IsTail at upperTail lowerTail lastTail
  simp only [finished_cons, finished_nil]
  rw [encodeChar_four (by omega) (by omega), ofNat_eq_of_toNat octet (by omega),
    ofNat_eq_of_toNat upper (by omega), ofNat_eq_of_toNat lower (by omega),
    ofNat_eq_of_toNat last (by omega)]
  rfl

/-- A first octet begins a character. -/
theorem begins_of_lead? {octet : UInt8} {pending : Pending}
    (promised : lead? octet = some pending) : pending.Begins [octet] := by
  rw [← UInt8.ofNat_toNat (x := octet), lead?_ofNat octet.toNat_lt] at promised
  split_ifs at promised with two least surrogate three lowest highest four
  all_goals cases promised
  · exact begins_two two.1 two.2
  · refine begins_three (by omega) (by omega) fun second within => ?_
    have range : 0xA0 ≤ second.toNat ∧ second.toNat ≤ 0xBF := within_iff_toNat.mp within
    unfold IsTail
    omega
  · refine begins_three (by omega) (by omega) fun second within => ?_
    have range : 0x80 ≤ second.toNat ∧ second.toNat ≤ 0x9F := within_iff_toNat.mp within
    unfold IsTail
    omega
  · refine begins_three (by omega) (by omega) fun second within => ?_
    have range := isTail_of_within_tail within
    unfold IsTail at range ⊢
    omega
  · refine begins_four (by omega) fun second within => ?_
    have range : 0x90 ≤ second.toNat ∧ second.toNat ≤ 0xBF := within_iff_toNat.mp within
    unfold IsTail
    omega
  · refine begins_four (by omega) fun second within => ?_
    have range : 0x80 ≤ second.toNat ∧ second.toNat ≤ 0x8F := within_iff_toNat.mp within
    unfold IsTail
    omega
  · refine begins_four (by omega) fun second within => ?_
    have range := isTail_of_within_tail within
    unfold IsTail at range ⊢
    omega

/-! ## Octets without a broken run -/

/-- What has been read since the last character that is finished. -/
def Awaits : Option Pending → Bytes → Prop
  | none, taken => taken = []
  | some pending, taken => pending.Begins taken

/-- Whether octets go on without a broken run. -/
def Unbroken (pending : Option Pending) (octets : Bytes) : Prop :=
  none ∉ scan pending octets

theorem unbroken_cons {pending : Option Pending} {octet : UInt8} {rest : Bytes} :
    Unbroken pending (octet :: rest) ↔
      none ∉ (step pending octet).1 ∧ Unbroken (step pending octet).2 rest := by
  cases pending <;> simp [Unbroken, scan]

/-- An octet that breaks nothing finishes the character, or goes on with it. -/
theorem awaits_step {pending : Option Pending} {taken : Bytes} (awaits : Awaits pending taken)
    {octet : UInt8} (intact : none ∉ (step pending octet).1) :
    ∃ characters left, taken ++ [octet] = encode characters ++ left ∧
      Awaits (step pending octet).2 left := by
  cases pending with
  | none =>
      obtain rfl : taken = [] := awaits
      unfold step first at intact ⊢
      dsimp only at intact ⊢
      split at intact
      · rename_i ascii
        rw [if_pos ascii]
        have small : ∀ other ∈ [octet], other < 0x80 := by simpa using ascii
        have single := encode_ascii small
        rw [List.map_singleton] at single
        exact ⟨_, [], by rw [single, List.append_nil, List.nil_append], rfl⟩
      · rename_i large
        rw [if_neg large]
        cases promised : lead? octet with
        | none => simp [promised] at intact
        | some pending => exact ⟨[], [octet], rfl, begins_of_lead? promised⟩
  | some pending =>
      obtain ⟨bits, owed⟩ := pending
      obtain ⟨owes, tails, pays⟩ := awaits
      cases owed with
      | nil => exact absurd rfl owes
      | cons range more =>
          obtain ⟨low, high⟩ := range
          unfold step at intact ⊢
          dsimp only at intact ⊢
          split at intact
          · rename_i within
            rw [if_pos within]
            cases more with
            | nil =>
                have finishes := pays [octet] (.cons within .nil)
                rw [finished_cons, finished_nil] at finishes
                refine ⟨[Char.ofNat (bits * 64 + octet.toNat % 64)], [], ?_, rfl⟩
                rw [encode_cons, finishes]
                simp
            | cons next later =>
                refine ⟨[], taken ++ [octet], rfl, List.cons_ne_nil _ _,
                  fun range among => tails range (List.mem_cons_of_mem _ among),
                  fun paid pay => ?_⟩
                have finishes := pays (octet :: paid) (.cons within pay)
                rw [finished_cons] at finishes
                rw [finishes, List.append_assoc, List.singleton_append]
          · simp at intact

/-- Octets that go on without a broken run make a text with those that were read before. -/
theorem exists_encode_of_unbroken {pending : Option Pending} {taken octets : Bytes}
    (awaits : Awaits pending taken) (unbroken : Unbroken pending octets) :
    ∃ characters, taken ++ octets = encode characters := by
  induction octets generalizing pending taken with
  | nil =>
      cases pending with
      | none =>
          obtain rfl : taken = [] := awaits
          exact ⟨[], rfl⟩
      | some pending => simp [Unbroken, scan] at unbroken
  | cons octet rest ih =>
      obtain ⟨intact, later⟩ := unbroken_cons.mp unbroken
      obtain ⟨finishedOnes, left, same, awaitsLeft⟩ := awaits_step awaits intact
      obtain ⟨others, ends⟩ := ih awaitsLeft later
      refine ⟨finishedOnes ++ others, ?_⟩
      rw [encode_append, ← ends, List.append_cons, same, List.append_assoc]

theorem unbroken_encode (characters : List Char) : Unbroken none (encode characters) := by
  simp [Unbroken, scan_encode]

theorem mapM_id_eq_some {units : List (Option Char)} {characters : List Char}
    (all : units.mapM id = some characters) : units = characters.map some := by
  induction units generalizing characters with
  | nil =>
      obtain rfl : [] = characters := by simpa using all
      rfl
  | cons unit rest ih =>
      simp only [List.mapM_cons, id, Option.bind_eq_bind, Option.bind_eq_some_iff] at all
      obtain ⟨character, rfl, others, later, same⟩ := all
      obtain rfl : character :: others = characters := by simpa using same
      rw [ih later, List.map_cons]

/-- Octets are decoded to the text whose octets they are. -/
theorem decode?_eq_some_iff {octets : Bytes} {characters : List Char} :
    decode? octets = some characters ↔ octets = encode characters := by
  constructor
  · intro decoded
    have unbroken : Unbroken none octets := by
      rw [Unbroken, mapM_id_eq_some decoded]
      simp
    have awaits : Awaits none [] := rfl
    obtain ⟨others, same⟩ := exists_encode_of_unbroken awaits unbroken
    rw [List.nil_append] at same
    rw [same, decode?_encode] at decoded
    rw [same, Option.some.inj decoded]
  · rintro rfl
    exact decode?_encode characters

end Utf8

/-- Octets spell the string whose octets they are. -/
theorem Bytes.toString?_eq_some_iff {octets : Bytes} {text : String} :
    octets.toString? = some text ↔ octets = Bytes.ofString text := by
  rw [toString?, Option.map_eq_some_iff]
  constructor
  · rintro ⟨characters, decoded, rfl⟩
    rw [ofString_ofList, Utf8.decode?_eq_some_iff.mp decoded]
  · rintro rfl
    exact ⟨text.toList, Utf8.decode?_encode _, String.ofList_toList⟩

end HostedCheckout
