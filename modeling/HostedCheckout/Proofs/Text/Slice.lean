import HostedCheckout.Proofs.Text.Utf8
import HostedCheckout.Text.Slice

/-!
# Where a text can be taken apart

The places at which a text can be taken apart are just the lengths of its beginnings.
-/

namespace HostedCheckout

namespace Utf8

theorem length_encode_cons (character : Char) (rest : List Char) :
    (encode (character :: rest)).length = character.utf8Size + (encode rest).length := by
  rw [encode_cons, List.length_append, String.length_utf8EncodeChar]

theorem length_encode_eq_zero_iff {text : List Char} : (encode text).length = 0 ↔ text = [] := by
  cases text with
  | nil => simp
  | cons character rest =>
      have positive := character.utf8Size_pos
      rw [length_encode_cons]
      simp
      omega

end Utf8

namespace Text

variable {count : Nat} {text front back : List Char}

theorem splitAt?_zero_eq_some_iff :
    splitAt? 0 text = some (front, back) ↔
      text = front ++ back ∧ (Utf8.encode front).length = 0 := by
  simp only [splitAt?, Option.some.injEq, Prod.mk.injEq, Utf8.length_encode_eq_zero_iff]
  constructor
  · rintro ⟨rfl, rfl⟩
    exact ⟨rfl, rfl⟩
  · rintro ⟨parts, rfl⟩
    exact ⟨rfl, parts⟩

/-- A text is taken apart where its beginning has as many octets as are asked for. -/
theorem splitAt?_eq_some_iff :
    splitAt? count text = some (front, back) ↔
      text = front ++ back ∧ (Utf8.encode front).length = count := by
  induction text generalizing count front with
  | nil =>
      cases count with
      | zero => exact splitAt?_zero_eq_some_iff
      | succ count =>
          simp only [splitAt?, reduceCtorEq, false_iff, not_and]
          intro parts
          obtain ⟨rfl, -⟩ := List.nil_eq_append_iff.mp parts
          simp
  | cons character rest ih =>
      cases count with
      | zero => exact splitAt?_zero_eq_some_iff
      | succ count =>
          have positive := character.utf8Size_pos
          simp only [splitAt?]
          constructor
          · intro split
            split_ifs at split with fits
            obtain ⟨parts, later, same⟩ := Option.map_eq_some_iff.mp split
            obtain ⟨rfl, rfl⟩ := Prod.mk.inj same
            obtain ⟨joined, length⟩ := ih.mp later
            refine ⟨by rw [joined, List.cons_append], ?_⟩
            rw [Utf8.length_encode_cons, length]
            omega
          · rintro ⟨joined, length⟩
            cases front with
            | nil => simp at length
            | cons first front =>
                obtain ⟨rfl, rfl⟩ := List.cons.inj joined
                rw [Utf8.length_encode_cons] at length
                rw [if_pos (by omega), ih.mpr ⟨rfl, by omega⟩]
                rfl

theorem isBoundary_iff :
    isBoundary count text = true ↔
      ∃ front back, text = front ++ back ∧ (Utf8.encode front).length = count := by
  rw [isBoundary, Option.isSome_iff_exists]
  constructor
  · rintro ⟨⟨front, back⟩, split⟩
    exact ⟨front, back, splitAt?_eq_some_iff.mp split⟩
  · rintro ⟨front, back, parts⟩
    exact ⟨(front, back), splitAt?_eq_some_iff.mpr parts⟩

end Text

end HostedCheckout
