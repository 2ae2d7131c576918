import HostedCheckout.Proofs.Gateway.Expiry
import HostedCheckout.Proofs.Text.Decoding
import HostedCheckout.Proofs.Text.Slice
import HostedCheckout.Proofs.Url.Percent

/-!
# Putting the colon in

The last five octets of an expiry are looked at, whatever characters they belong to.  No
character is taken apart by this; the colon is the only thing that is ever put in, and only
where timestamps cannot be read without it.
-/

namespace HostedCheckout

namespace Offset

variable {offset : Offset} {tail : List Char}

/-- A digit as an octet is a digit as a character. -/
theorem isDigit_ofNat : ∀ octet : UInt8, Json.Scan.isDigit octet = true →
    (Char.ofNat octet.toNat).isDigit = true ∧ octet < 0x80 :=
  Percent.forall_octet (by decide +kernel)

theorem isSign_ofNat : ∀ octet : UInt8, octet = 0x2B ∨ octet = 0x2D →
    (Char.ofNat octet.toNat = '+' ∨ Char.ofNat octet.toNat = '-') ∧ octet < 0x80 := by
  rintro octet (rfl | rfl) <;> decide

/-- The octets of a bare offset are a sign and digits. -/
theorem encode_bare :
    ∃ sign digits, Utf8.encode offset.bare = sign :: digits ∧ (sign = 0x2B ∨ sign = 0x2D) ∧
      digits.all Json.Scan.isDigit = true := by
  have digits := encode_digits (List.Subset.refl
    [offset.tensOfHours, offset.hours, offset.tensOfMinutes, offset.minutes])
  obtain ⟨sign, single, isSign⟩ :
      ∃ sign, String.utf8EncodeChar offset.sign = [sign] ∧ (sign = 0x2B ∨ sign = 0x2D) := by
    rcases offset.isSign with plus | minus
    · exact ⟨0x2B, by rw [plus]; rfl, .inl rfl⟩
    · exact ⟨0x2D, by rw [minus]; rfl, .inr rfl⟩
  refine ⟨sign, Utf8.encode
    [offset.tensOfHours, offset.hours, offset.tensOfMinutes, offset.minutes], ?_, isSign, ?_⟩
  · rw [bare, Utf8.encode_cons, single, List.singleton_append]
  · rw [digits, List.all_map, List.all_eq_true]
    intro digit among
    exact Json.isDigit_digitOctet (isDigit_of_mem among)

/-- Five octets that are a sign and digits are those of a bare offset. -/
theorem exists_eq_bare {sign : UInt8} {digits : Bytes}
    (octets : Utf8.encode tail = sign :: digits) (length : digits.length = 4)
    (isSign : sign = 0x2B ∨ sign = 0x2D) (isDigits : digits.all Json.Scan.isDigit = true) :
    ∃ offset : Offset, tail = offset.bare := by
  obtain ⟨signed, small⟩ := isSign_ofNat sign isSign
  have judged := fun octet among => isDigit_ofNat octet (List.all_eq_true.mp isDigits octet among)
  have ascii : ∀ octet ∈ sign :: digits, octet < 0x80 := by
    intro octet among
    rcases List.mem_cons.mp among with rfl | digit
    · exact small
    · exact (judged octet digit).2
  have spelled : tail = (sign :: digits).map fun octet => Char.ofNat octet.toNat := by
    apply Utf8.encode_injective
    rw [octets, Utf8.encode_ascii ascii]
  match digits, length, judged, spelled with
  | [first, second, third, fourth], _, judged, spelled =>
      refine ⟨⟨_, Char.ofNat first.toNat, Char.ofNat second.toNat, Char.ofNat third.toNat,
        Char.ofNat fourth.toNat, signed, ?_⟩, spelled⟩
      simp [(judged first (by simp)).1, (judged second (by simp)).1, (judged third (by simp)).1,
        (judged fourth (by simp)).1]

end Offset

namespace AccessToken

variable {raw : String} {head tail : List Char} {offset : Offset}

/-- The timestamp with a colon in its offset, found by octets.  Each index and each slice
is checked; `none` stands for one that is out of bounds. -/
def normalizeByOctets? (raw : String) : Option String :=
  let length := (Bytes.ofString raw).length
  if length ≤ offsetLength then some raw
  else if !Text.isBoundary (length - offsetLength) raw.toList then some raw
  else do
    let (head, tail) ← Text.splitAt? (length - offsetLength) raw.toList
    let octets := Utf8.encode tail
    let sign ← octets[0]?
    let digits ← Text.dropOctets? 1 octets
    if (sign = 0x2B ∨ sign = 0x2D) ∧ digits.all Json.Scan.isDigit ∧ head.contains 'T' then do
      let (hours, minutes) ← Text.splitAt? 3 tail
      return String.ofList (head ++ hours ++ ':' :: minutes)
    else return raw

/-- A text that ends in an offset without a colon, and has a `T` in front of it. -/
structure LacksColon (raw : String) (head : List Char) (offset : Offset) : Prop where
  joined : raw.toList = head ++ offset.bare
  longer : offsetLength < (Bytes.ofString raw).length
  marked : 'T' ∈ head

/-! ## Where the colon is missing -/

/-- A text is split in front of the octets that are to be left. -/
theorem splitAtOctets?_eq_some_iff {count : Nat} (positive : 0 < count) {text : List Char} :
    splitAtOctets? count text = some (head, tail) ↔
      text = head ++ tail ∧ (Utf8.encode tail).length = count := by
  constructor
  · intro split
    induction text generalizing head with
    | nil => simp [splitAtOctets?, Nat.ne_of_gt positive] at split
    | cons character rest ih =>
        simp only [splitAtOctets?] at split
        split_ifs at split with whole
        · cases split
          exact ⟨rfl, whole⟩
        · obtain ⟨parts, later, same⟩ := Option.map_eq_some_iff.mp split
          cases same
          obtain ⟨joined, length⟩ := ih later
          exact ⟨by rw [joined, List.cons_append], length⟩
  · rintro ⟨rfl, length⟩
    have nonempty : tail ≠ [] := by
      rintro rfl
      exact Nat.ne_of_lt positive length
    exact splitAtOctets?_append head nonempty length

theorem withColon?_eq_some_iff {written : List Char} :
    withColon? tail = some written ↔
      ∃ offset : Offset, tail = offset.bare ∧ written = offset.coloned := by
  constructor
  · intro given
    unfold withColon? at given
    split at given
    · rename_i sign first second third fourth
      split_ifs at given with isOffset
      cases given
      exact ⟨⟨sign, first, second, third, fourth, isOffset.1, isOffset.2⟩, rfl, rfl⟩
    · cases given
  · rintro ⟨offset, rfl, rfl⟩
    exact withColon?_bare offset

theorem lacksColon_of_parts (joined : raw.toList = head ++ offset.bare) (marked : 'T' ∈ head) :
    LacksColon raw head offset where
  joined := joined
  marked := marked
  longer := by
    have before : (Utf8.encode head).length ≠ 0 := fun empty =>
      List.ne_nil_of_mem marked (Utf8.length_encode_eq_zero_iff.mp empty)
    have after : (Utf8.encode offset.bare).length = 5 := Offset.length_encode Offset.bare_subset
    rw [Bytes.ofString, joined, Utf8.encode_append, List.length_append, after, offsetLength]
    omega

theorem normalizeOffset_of_lacksColon (lacks : LacksColon raw head offset) :
    normalizeOffset raw = String.ofList (head ++ offset.coloned) := by
  have spelled : raw = String.ofList (head ++ offset.bare) := by
    rw [← lacks.joined, String.ofList_toList]
  rw [spelled, normalizeOffset_bare, if_pos lacks.marked]

theorem normalizeOffset_of_not_lacksColon
    (complete : ¬ ∃ head offset, LacksColon raw head offset) : normalizeOffset raw = raw := by
  unfold normalizeOffset
  split
  · rename_i head tail split
    split
    · rename_i written given
      obtain ⟨joined, -⟩ := (splitAtOctets?_eq_some_iff (by decide)).mp split
      obtain ⟨offset, rfl, -⟩ := withColon?_eq_some_iff.mp given
      apply if_neg
      intro marked
      exact complete
        ⟨head, offset, lacksColon_of_parts joined (List.contains_iff_mem.mp marked)⟩
    · rfl
  · rfl

/-! ## Octet by octet -/

theorem normalizeByOctets?_of_lacksColon (lacks : LacksColon raw head offset) :
    normalizeByOctets? raw = some (String.ofList (head ++ offset.coloned)) := by
  have five : (Utf8.encode offset.bare).length = offsetLength :=
    Offset.length_encode Offset.bare_subset
  have before : (Utf8.encode head).length = (Bytes.ofString raw).length - offsetLength := by
    rw [Bytes.ofString, lacks.joined, Utf8.encode_append, List.length_append, five,
      Nat.add_sub_cancel]
  have split := Text.splitAt?_eq_some_iff.mpr ⟨lacks.joined, before⟩
  have boundary := Text.isBoundary_iff.mpr ⟨_, _, lacks.joined, before⟩
  obtain ⟨sign, digits, octets, isSign, isDigits⟩ := offset.encode_bare
  have apart : Text.splitAt? 3 offset.bare =
      some ([offset.sign, offset.tensOfHours, offset.hours],
        [offset.tensOfMinutes, offset.minutes]) := by
    have front : [offset.sign, offset.tensOfHours, offset.hours] ⊆ offset.coloned :=
      fun character among => Offset.bare_subset (List.mem_append_left _ among)
    exact Text.splitAt?_eq_some_iff.mpr ⟨rfl, Offset.length_encode front⟩
  have rest : Text.dropOctets? 1 (sign :: digits) = some digits := by simp [Text.dropOctets?]
  simp only [normalizeByOctets?, if_neg (Nat.not_le.mpr lacks.longer), boundary, split, octets,
    Bool.not_true, Bool.false_eq_true, if_false, Option.bind_eq_bind, Option.bind_some, rest,
    List.getElem?_cons_zero, isSign, isDigits, List.contains_iff_mem, lacks.marked, and_self,
    if_true, apart]
  simp [Offset.coloned]

theorem normalizeByOctets?_of_not_lacksColon
    (complete : ¬ ∃ head offset, LacksColon raw head offset) :
    normalizeByOctets? raw = some raw := by
  unfold normalizeByOctets?
  dsimp only
  split_ifs with short inside
  · rfl
  · rfl
  · rw [Bool.not_eq_true, Bool.not_eq_false'] at inside
    obtain ⟨head, tail, joined, before⟩ := Text.isBoundary_iff.mp inside
    have five : (Utf8.encode tail).length = 5 := by
      have both := congrArg (fun text => (Utf8.encode text).length) joined
      simp only [Utf8.encode_append, List.length_append] at both
      rw [offsetLength, Bytes.ofString] at short before
      omega
    obtain ⟨sign, digits, octets⟩ := List.exists_cons_of_length_pos (by omega : 0 <
      (Utf8.encode tail).length)
    have rest : Text.dropOctets? 1 (sign :: digits) = some digits := by simp [Text.dropOctets?]
    have other : ¬((sign = 0x2B ∨ sign = 0x2D) ∧ digits.all Json.Scan.isDigit = true ∧
        head.contains 'T' = true) := by
      rintro ⟨isSign, isDigits, marked⟩
      have four : digits.length = 4 := by simpa [octets] using five
      obtain ⟨offset, rfl⟩ := Offset.exists_eq_bare octets four isSign isDigits
      exact complete
        ⟨head, offset, lacksColon_of_parts joined (List.contains_iff_mem.mp marked)⟩
    simp only [Text.splitAt?_eq_some_iff.mpr ⟨joined, before⟩, Option.bind_eq_bind,
      Option.bind_some, octets, List.getElem?_cons_zero, rest, if_neg other]
    rfl

/-- No index and no slice is ever out of bounds. -/
theorem normalizeByOctets?_eq (raw : String) :
    normalizeByOctets? raw = some (normalizeOffset raw) := by
  by_cases given : ∃ head offset, LacksColon raw head offset
  · obtain ⟨head, offset, lacks⟩ := given
    rw [normalizeByOctets?_of_lacksColon lacks, normalizeOffset_of_lacksColon lacks]
  · rw [normalizeByOctets?_of_not_lacksColon given, normalizeOffset_of_not_lacksColon given]

theorem normalizeOffset_normalizeOffset (raw : String) :
    normalizeOffset (normalizeOffset raw) = normalizeOffset raw := by
  by_cases given : ∃ head offset, LacksColon raw head offset
  · obtain ⟨head, offset, lacks⟩ := given
    rw [normalizeOffset_of_lacksColon lacks, normalizeOffset_coloned]
  · rw [normalizeOffset_of_not_lacksColon given, normalizeOffset_of_not_lacksColon given]

/-- What can be read as a timestamp lacks no colon. -/
theorem normalizeOffset_of_read {instant : Instant}
    (read : Rfc3339.read (Bytes.ofString raw) = .ok instant) : normalizeOffset raw = raw := by
  apply normalizeOffset_of_not_lacksColon
  rintro ⟨head, offset, lacks⟩
  rw [Bytes.ofString, lacks.joined, Utf8.encode_append] at read
  exact not_endsInOffset_bare offset _ (Rfc3339.endsInOffset_of_read read)

/-- Putting the colon in never takes a character apart, changes nothing but texts that lack
a colon, in which it puts one, and does so once; timestamps that can be read stay as they
are. -/
theorem normalizeOffset_adds_only_colon (raw : String) :
    normalizeByOctets? raw = some (normalizeOffset raw) ∧
      (∀ head offset, LacksColon raw head offset →
        normalizeOffset raw = String.ofList (head ++ offset.coloned)) ∧
      ((¬ ∃ head offset, LacksColon raw head offset) → normalizeOffset raw = raw) ∧
      normalizeOffset (normalizeOffset raw) = normalizeOffset raw ∧
      (∀ instant, Rfc3339.read (Bytes.ofString raw) = .ok instant →
        normalizeOffset raw = raw) := by
  refine ⟨normalizeByOctets?_eq raw, ?_, ?_, normalizeOffset_normalizeOffset raw, ?_⟩
  · intro head offset lacks
    exact normalizeOffset_of_lacksColon lacks
  · intro complete
    exact normalizeOffset_of_not_lacksColon complete
  · intro instant read
    exact normalizeOffset_of_read read

/-- A colon is put into one timestamp, and the other one is left as it is. -/
theorem normalizeOffset_adds_only_colon_of_samples :
    (∃ head offset, LacksColon "2024-01-01T05:30:00+0530" head offset) ∧
      normalizeOffset "2024-01-01T05:30:00+0530" = "2024-01-01T05:30:00+05:30" ∧
      Rfc3339.read (Bytes.ofString "2024-01-01T00:00:00Z") = .ok ⟨1704067200, 0⟩ ∧
      normalizeOffset "2024-01-01T00:00:00Z" = "2024-01-01T00:00:00Z" := by
  let offset : Offset := ⟨'+', '0', '5', '3', '0', .inl rfl, by decide⟩
  have lacks : LacksColon "2024-01-01T05:30:00+0530" "2024-01-01T05:30:00".toList offset :=
    lacksColon_of_parts (by decide) (by decide)
  have read : Rfc3339.read (Bytes.ofString "2024-01-01T00:00:00Z") = .ok ⟨1704067200, 0⟩ :=
    toOption_eq_some_iff.mp (by decide +kernel)
  obtain ⟨-, adds, -⟩ := normalizeOffset_adds_only_colon "2024-01-01T05:30:00+0530"
  obtain ⟨-, -, -, -, keeps⟩ := normalizeOffset_adds_only_colon "2024-01-01T00:00:00Z"
  exact ⟨⟨_, _, lacks⟩, adds _ _ lacks, read, keeps _ read⟩

end AccessToken

end HostedCheckout
