import HostedCheckout.Proofs.Text.Decoding
import HostedCheckout.Proofs.Url.Form

/-!
# Marks between parts

A character of ASCII that no escape is made of parts what is written before it from what is
written after it: both are read as if they stood alone, however broken they are.
-/

namespace HostedCheckout

/-! ## Octets -/

namespace Utf8

/-- A character that has begun and owes octets, none of which is ASCII. -/
structure Pending.Owes (pending : Pending) : Prop where
  owes : pending.owed ≠ []
  large : ∀ range ∈ pending.owed, 0x80 ≤ range.1

/-- What is left pending owes octets. -/
def Waiting (pending : Option Pending) : Prop :=
  ∀ held ∈ pending, held.Owes

theorem owes_of_lead? {octet : UInt8} {pending : Pending} (promised : lead? octet = some pending) :
    pending.Owes := by
  unfold lead? at promised
  split_ifs at promised
  all_goals
    cases promised
    exact ⟨List.cons_ne_nil _ _, by simp [tail]⟩

theorem waiting_first (octet : UInt8) : Waiting (first octet).2 := by
  intro pending left
  unfold first at left
  split at left
  · cases left
  · split at left
    · rename_i promised
      cases left
      exact owes_of_lead? promised
    · cases left

theorem waiting_step {pending : Option Pending} (waiting : Waiting pending) (octet : UInt8) :
    Waiting (step pending octet).2 := by
  rcases pending with _ | ⟨bits, _ | ⟨range, owed⟩⟩
  · exact waiting_first octet
  · exact waiting_first octet
  · obtain ⟨-, large⟩ := waiting _ rfl
    unfold step
    dsimp only
    split
    · cases owed with
      | nil =>
          intro held left
          cases left
      | cons next later =>
          intro held left
          cases left
          exact ⟨List.cons_ne_nil _ _,
            fun range among => large range (List.mem_cons_of_mem _ among)⟩
    · exact waiting_first octet

/-- A character of ASCII closes what is pending, and begins anew. -/
theorem scan_ascii {pending : Option Pending} (waiting : Waiting pending) {octet : UInt8}
    (ascii : octet < 0x80) (rest : Bytes) :
    scan pending (octet :: rest) =
      scan pending [] ++ some (Char.ofNat octet.toNat) :: scan none rest := by
  rcases pending with _ | ⟨bits, _ | ⟨range, owed⟩⟩
  · exact scan_of_ascii ascii rest
  · exact absurd rfl (waiting _ rfl).owes
  · have large := (waiting _ rfl).large range List.mem_cons_self
    have outside : ¬(range.1 ≤ octet ∧ octet ≤ range.2) := fun within =>
      absurd (UInt8.le_trans large within.1) (UInt8.not_le.mpr ascii)
    simp only [scan, step, if_neg outside, first, if_pos ascii]
    rfl

theorem scan_append_ascii {pending : Option Pending} (waiting : Waiting pending) {octet : UInt8}
    (ascii : octet < 0x80) (front rest : Bytes) :
    scan pending (front ++ octet :: rest) =
      scan pending front ++ some (Char.ofNat octet.toNat) :: scan none rest := by
  induction front generalizing pending with
  | nil => exact scan_ascii waiting ascii rest
  | cons next front ih =>
      have both (octets : Bytes) : scan pending (next :: octets) =
          (step pending next).1 ++ scan (step pending next).2 octets := by
        cases pending <;> rfl
      rw [List.cons_append, both, both, ih (waiting_step waiting next), List.append_assoc]

theorem decodeLossy_append_ascii {octet : UInt8} (ascii : octet < 0x80) (front rest : Bytes) :
    decodeLossy (front ++ octet :: rest) =
      decodeLossy front ++ Char.ofNat octet.toNat :: decodeLossy rest := by
  have waiting : Waiting none := fun _ held => absurd held (by simp)
  rw [decodeLossy, scan_append_ascii waiting ascii, List.map_append, List.map_cons]
  rfl

end Utf8

namespace Percent

theorem opensEscape_cons_plain {octet : UInt8} (noDigit : hexValue? octet = none) (rest : Bytes) :
    opensEscape (octet :: rest) = false := by
  simp [opensEscape, opensDigit, noDigit]

theorem opensEscape_cons_cons_plain {octet : UInt8} (noDigit : hexValue? octet = none)
    (next : UInt8) (rest : Bytes) : opensEscape (next :: octet :: rest) = false := by
  simp [opensEscape, opensDigit, noDigit]

/-- What is no digit and no percent sign ends an escape that has begun. -/
theorem decode_append_plain {octet : UInt8} (plain : octet ≠ 0x25)
    (noDigit : hexValue? octet = none) (front rest : Bytes) :
    decode (front ++ octet :: rest) = decode front ++ octet :: decode rest := by
  fun_induction decode front with
  | case1 high low front first second lowDigit highDigit ih =>
      simp only [List.cons_append]
      rw [decode_escape highDigit lowDigit, ih]
  | case2 high low front noEscape ih =>
      have bare : opensEscape (high :: low :: front ++ octet :: rest) = false := by
        cases first : hexValue? high with
        | none => exact opensEscape_cons_plain first _
        | some high =>
            cases second : hexValue? low with
            | none => exact opensEscape_cons_cons_plain second _ _
            | some low => exact absurd second (noEscape high low first)
      rw [List.cons_append, decode_of_not_opensEscape bare, ih, List.cons_append]
  | case3 next front short ih =>
      rw [List.cons_append, List.cons_append, ← ih]
      by_cases percent : next = 0x25
      · subst percent
        rcases front with _ | ⟨high, _ | ⟨low, more⟩⟩
        · exact decode_of_not_opensEscape (opensEscape_cons_plain noDigit rest)
        · exact decode_of_not_opensEscape (opensEscape_cons_cons_plain noDigit high rest)
        · exact absurd rfl (short high low more rfl)
      · exact decode_of_ne percent _
  | case4 => rw [List.nil_append, decode_of_ne plain, List.nil_append]

end Percent

/-! ## Forms -/

namespace Form

/-- Characters that stand for themselves in a form and are no part of an escape. -/
structure IsMark (mark : Char) : Prop where
  octet : String.utf8EncodeChar mark = [.ofNat mark.toNat]
  itself : Char.ofNat (UInt8.ofNat mark.toNat).toNat = mark
  ascii : UInt8.ofNat mark.toNat < 0x80
  noPlus : UInt8.ofNat mark.toNat ≠ 0x2B
  noPercent : UInt8.ofNat mark.toNat ≠ 0x25
  noDigit : Percent.hexValue? (.ofNat mark.toNat) = none

theorem isMark_question : IsMark '?' := by
  constructor <;> decide

theorem isMark_equals : IsMark '=' := by
  constructor <;> decide

/-- What stands on both sides of a mark is read by itself. -/
theorem decodeText_append_mark {mark : Char} (isMark : IsMark mark) (front rest : List Char) :
    decodeText (front ++ mark :: rest) =
      decodeText front ++ String.singleton mark ++ decodeText rest := by
  have octets : (Utf8.encode (front ++ mark :: rest)).map plusToBlank =
      (Utf8.encode front).map plusToBlank ++
        .ofNat mark.toNat :: (Utf8.encode rest).map plusToBlank := by
    rw [Utf8.encode_append, Utf8.encode_cons, isMark.octet, List.singleton_append, List.map_append,
      List.map_cons, plusToBlank, if_neg isMark.noPlus]
  change (Percent.decode ((Utf8.encode (front ++ mark :: rest)).map plusToBlank)).toStringLossy = _
  rw [octets, Percent.decode_append_plain isMark.noPercent isMark.noDigit, Bytes.toStringLossy,
    Utf8.decodeLossy_append_ascii isMark.ascii, isMark.itself, ← List.singleton_append,
    ← List.append_assoc, String.ofList_append, String.ofList_append,
    ← String.singleton_eq_ofList]
  rfl

/-- Parts on both sides of an ampersand are read one after the other. -/
theorem decode_append_ampersand (front rest : List Char) :
    decode (front ++ '&' :: rest) = decode front ++ decode rest := by
  have split : (front ++ '&' :: rest).splitOn '&' = front.splitOn '&' ++ rest.splitOn '&' :=
    List.splitOnP_append_cons front rest (by rfl)
  rw [decode, split, List.filter_append, List.map_append]
  rfl

/-- A part without an ampersand is one pair. -/
theorem decode_of_not_mem {part : List Char} (whole : '&' ∉ part) (nonempty : part ≠ []) :
    decode part = [decodePair part] := by
  have unsplit : part.splitOn '&' = [part] := by
    refine List.splitOnP_eq_singleton fun character among => ?_
    simpa using fun same : character = '&' => whole (same ▸ among)
  simp [decode, unsplit, nonempty]

/-- A text that is put in front of a pair, with a question mark between them, changes it. -/
theorem decodePair_append_ne (front : List Char) (pair : String × String) :
    decodePair (front ++ '?' :: encodePair pair) ≠ pair := by
  have longer (before after : String) (mark : Char) :
      before ++ String.singleton mark ++ after ≠ after := by
    intro same
    have length := congrArg String.length same
    simp only [String.length_append, String.length_singleton] at length
    omega
  intro same
  by_cases marked : '=' ∈ front
  · -- The name ends in front, and the whole pair becomes a part of the value.
    obtain ⟨name, more, rfl, unmarked⟩ := List.eq_append_cons_of_mem marked
    rw [List.append_assoc, List.cons_append, decodePair_append_equals unmarked,
      decodeText_append_mark isMark_question, encodePair, decodeText_append_mark isMark_equals,
      decodeText_encodeText, decodeText_encodeText] at same
    have value := congrArg Prod.snd same
    rw [← String.append_assoc, ← String.append_assoc] at value
    exact longer _ _ _ value
  · -- What stands in front becomes a part of the name.
    have unmarked : '=' ∉ front ++ '?' :: encodeText pair.1 := by
      rw [List.mem_append, List.mem_cons, not_or, not_or]
      exact ⟨marked, by decide, not_mem_encodeText (by decide) pair.1⟩
    have joined : front ++ '?' :: encodePair pair =
        (front ++ '?' :: encodeText pair.1) ++ '=' :: encodeText pair.2 := by
      simp [encodePair]
    rw [joined, decodePair_append_equals unmarked, decodeText_append_mark isMark_question,
      decodeText_encodeText] at same
    exact longer _ _ _ (congrArg Prod.fst same)

end Form

end HostedCheckout
