import HostedCheckout.Proofs.Url.Extension
import HostedCheckout.Proofs.Url.Percent

/-!
# Plain texts

A text may be written at the end of a path as it is, and stands there for itself, exactly
when it is plain: without marks, slashes and breaks, without blanks at its end, without
escapes, and no dot segment.  Anything else becomes another path, a query, or a fragment,
or a segment that stands for another text.
-/

namespace HostedCheckout.Url

/-- A text that stands for itself as the last segment of a path. -/
structure Plain (text : List Char) : Prop where
  unmarked : ∀ mark ∈ ['/', '\\', '?', '#', '\t', '\n', '\r'], mark ∉ text
  solid : ∀ last ∈ text.getLast?, isBlank last = false
  regular : isDoubleDot text = false ∧ isSingleDot text = false
  unescaped : Percent.decode (Utf8.encode text) = Utf8.encode text

/-- The segments that are read from a text at the end of a path. -/
def endSegments (port : Nat) (above : List String) (text : List Char) : List String :=
  resolve (.web port) above
    ((splitTail (tidied text)).path.splitOnP (SchemeKind.web port).isSlash)

variable {port : Nat} {above : List String} {text : List Char}

theorem ofString_encodedSegment (segment : List Char) :
    Bytes.ofString (encodedSegment segment) =
      Utf8.encode (Percent.encode Percent.inPath segment) := by
  unfold Bytes.ofString encodedSegment
  rw [String.toList_ofList]

/-- A segment as it is kept stands for what the segment stands for. -/
theorem decode_encodedSegment (segment : List Char) :
    Percent.decode (Bytes.ofString (encodedSegment segment)) =
      Percent.decode (Utf8.encode segment) := by
  rw [ofString_encodedSegment, Percent.decode_encode Percent.lossless_inPath]

/-! ## Plain texts stand for themselves -/

namespace Plain

theorem splitTail_tidied (plain : Plain text) : splitTail (tidied text) = ⟨text, none, none⟩ := by
  have unbroken : unbroken text = text := by
    refine List.filter_eq_self.mpr fun character among => ?_
    have tab := ne_of_mem_of_not_mem among (plain.unmarked '\t' (by decide))
    have feed := ne_of_mem_of_not_mem among (plain.unmarked '\n' (by decide))
    have carriage := ne_of_mem_of_not_mem among (plain.unmarked '\r' (by decide))
    simp [tab, feed, carriage]
  rw [tidied_of_solid (by rw [unbroken]; exact plain.solid), unbroken]
  exact splitTail_of_unmarked (plain.unmarked '#' (by decide)) (plain.unmarked '?' (by decide))

theorem endSegments_eq (plain : Plain text) :
    endSegments port above text = above.reverse ++ [encodedSegment text] := by
  have whole : text.splitOnP (SchemeKind.web port).isSlash = [text] := by
    refine List.splitOnP_eq_singleton fun character among => ?_
    have slash := ne_of_mem_of_not_mem among (plain.unmarked '/' (by decide))
    have backslash := ne_of_mem_of_not_mem among (plain.unmarked '\\' (by decide))
    simp [SchemeKind.isSlash, slash, backslash]
  unfold endSegments
  rw [plain.splitTail_tidied, whole, resolve]
  simp [plain.regular, keptSegment_web]

theorem decode_eq (plain : Plain text) :
    Percent.decode (Bytes.ofString (encodedSegment text)) = Utf8.encode text := by
  rw [decode_encodedSegment, plain.unescaped]

end Plain

/-! ## Nothing else does -/

/-- Every character that is left out makes the encoded text shorter. -/
theorem length_encode_add_le {part : List Char} (within : part.Sublist text) :
    (Utf8.encode part).length + text.length ≤ (Utf8.encode text).length + part.length := by
  induction within with
  | slnil => exact Nat.le_refl _
  | @cons _ _ character _ ih =>
      have octets := character.utf8Size_pos
      simp only [Utf8.encode, List.flatMap_cons, List.length_append, List.length_cons,
        String.length_utf8EncodeChar] at ih ⊢
      omega
  | cons_cons character _ ih =>
      simp only [Utf8.encode, List.flatMap_cons, List.length_append, List.length_cons] at ih ⊢
      omega

theorem eq_of_sublist_of_length_encode_le {part : List Char} (within : part.Sublist text)
    (long : (Utf8.encode text).length ≤ (Utf8.encode part).length) : part = text := by
  have lengths := length_encode_add_le within
  exact within.eq_of_length_le (by omega)

theorem tidied_sublist (text : List Char) : (tidied text).Sublist text := by
  have trimmed : (text.reverse.dropWhile isBlank).reverse.Sublist text := by
    simpa using (List.dropWhile_sublist isBlank (l := text.reverse)).reverse
  exact List.filter_sublist.trans trimmed

theorem path_splitTail_sublist (text : List Char) : (splitTail text).path.Sublist text :=
  (List.takeWhile_sublist _).trans (List.takeWhile_sublist _)

/-- The last segment that is read from a text is empty, or a part of the text as it is
kept. -/
theorem endSegments_cases (port : Nat) (above : List String) (text : List Char) :
    ∃ names, endSegments port above text = names ++ [""] ∨
      ∃ last, endSegments port above text = names ++ [encodedSegment last] ∧
        last <:+ (splitTail (tidied text)).path ∧
        (∀ inside ∈ last, (SchemeKind.web port).isSlash inside = false) ∧
        isDoubleDot last = false ∧ isSingleDot last = false := by
  obtain ⟨front, last, split, ends, unsplit⟩ :=
    exists_splitOnP_eq_append (SchemeKind.web port).isSlash (splitTail (tidied text)).path
  unfold endSegments
  rw [split, resolve_append front (List.cons_ne_nil last [])]
  generalize descend (.web port) above front = below
  rcases resolve_singleton last with ⟨kept, regular⟩ | ⟨names, empty⟩
  · refine ⟨below.reverse, .inr ⟨last, ?_, ends, unsplit, regular⟩⟩
    rw [kept, List.reverse_cons, keptSegment_web]
  · exact ⟨names, .inl empty⟩

/-- A text that is read as it is, has no marks, no breaks, and no blank at its end. -/
theorem solid_of_splitTail_tidied (whole : (splitTail (tidied text)).path = text) :
    (∀ mark ∈ ['?', '#', '\t', '\n', '\r'], mark ∉ text) ∧
      ∀ last ∈ text.getLast?, isBlank last = false := by
  have within := path_splitTail_sublist (tidied text)
  rw [whole] at within
  have tidy : tidied text = text := (tidied_sublist text).antisymm within
  rw [tidy] at whole
  have beforeHash : text.takeWhile (· ≠ '#') = text := by
    refine (List.takeWhile_sublist _).antisymm ?_
    conv_lhs => rw [← whole]
    exact List.takeWhile_sublist _
  have beforeMark : text.takeWhile (· ≠ '?') = text := by
    simpa only [splitTail, cut, beforeHash] using whole
  constructor
  · intro mark isMark among
    have inTidied : mark ∈ tidied text := tidy.symm ▸ among
    have passes := (List.mem_filter.mp inTidied).2
    have noHash := List.mem_takeWhile_imp (beforeHash.symm ▸ among)
    have noMark := List.mem_takeWhile_imp (beforeMark.symm ▸ among)
    simp only [Bool.and_eq_true, bne_iff_ne, decide_eq_true_eq] at passes noHash noMark
    simp [noHash, noMark, passes.1.1, passes.1.2, passes.2] at isMark
  · intro last ends
    have kept : text.reverse.dropWhile isBlank = text.reverse := by
      have long : text.Sublist (text.reverse.dropWhile isBlank).reverse := by
        conv_lhs => rw [← tidy]
        exact List.filter_sublist
      refine (List.dropWhile_sublist isBlank).antisymm ?_
      simpa using long.reverse
    have front := List.head?_dropWhile_not isBlank text.reverse
    rw [kept, List.head?_reverse, ends] at front
    exact front

/-- A text that is not plain does not stand for itself. -/
theorem plain_of_decode {names : List String} {written : String} (nonempty : text ≠ [])
    (ends : endSegments port above text = names ++ [written])
    (means : Percent.decode (Bytes.ofString written) = Utf8.encode text) : Plain text := by
  obtain ⟨others, empty | ⟨last, kept, suffix, unsplit, regular⟩⟩ :=
    endSegments_cases port above text
  · obtain rfl := List.singleton_inj.mp (List.append_inj' (empty.symm.trans ends) rfl).2
    have short : (Utf8.encode text).length ≤ (Utf8.encode []).length := by
      rw [← means]
      exact Nat.le_refl 0
    exact absurd (eq_of_sublist_of_length_encode_le (List.nil_sublist text) short).symm nonempty
  · obtain rfl := List.singleton_inj.mp (List.append_inj' (kept.symm.trans ends) rfl).2
    rw [decode_encodedSegment] at means
    have within : last.Sublist text :=
      suffix.sublist.trans ((path_splitTail_sublist _).trans (tidied_sublist text))
    have long : (Utf8.encode text).length ≤ (Utf8.encode last).length := by
      rw [← means]
      exact Percent.length_decode_le _
    -- The text is not longer than its last part, so nothing of it was lost on the way.
    obtain rfl := eq_of_sublist_of_length_encode_le within long
    have whole : (splitTail (tidied last)).path = last :=
      ((path_splitTail_sublist _).trans (tidied_sublist last)).antisymm suffix.sublist
    obtain ⟨unmarked, solid⟩ := solid_of_splitTail_tidied whole
    refine ⟨fun mark isMark among => ?_, solid, regular, means⟩
    have noSlash := unsplit mark among
    simp only [List.mem_cons, List.not_mem_nil, or_false] at isMark
    rcases isMark with rfl | rfl | rfl | rfl | rfl | rfl | rfl
    · exact absurd noSlash.symm Bool.false_ne_true
    · exact absurd noSlash.symm Bool.false_ne_true
    all_goals exact unmarked _ (by decide) among

end HostedCheckout.Url
