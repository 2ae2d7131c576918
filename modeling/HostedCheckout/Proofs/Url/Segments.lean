import HostedCheckout.Url.Parser

/-!
# Segments and where they lead

The segments of a path are resolved from left to right.  So a path that goes on after
another one is resolved by going on from where the first one leads, and the last segment
of what comes out is either empty or the last segment of what went in.
-/

namespace HostedCheckout.Url

/-- Where segments lead that are followed by others; those above are given in reverse. -/
def descend (kind : SchemeKind) (above : List String) : List (List Char) → List String
  | [] => above
  | segment :: rest =>
      if isDoubleDot segment then descend kind (parent kind above) rest
      else if isSingleDot segment then descend kind above rest
      else descend kind (keptSegment kind above segment :: above) rest

variable {kind : SchemeKind} {above : List String}

theorem resolve_cons_of_ne_nil {rest : List (List Char)} (more : rest ≠ []) (segment : List Char) :
    resolve kind above (segment :: rest) =
      if isDoubleDot segment then resolve kind (parent kind above) rest
      else if isSingleDot segment then resolve kind above rest
      else resolve kind (keptSegment kind above segment :: above) rest := by
  cases rest with
  | nil => exact absurd rfl more
  | cons next rest => rw [resolve]

theorem descend_append (front rest : List (List Char)) :
    descend kind above (front ++ rest) = descend kind (descend kind above front) rest := by
  induction front generalizing above with
  | nil => rfl
  | cons segment front ih =>
      rw [List.cons_append, descend, descend]
      split
      · exact ih
      · split
        · exact ih
        · exact ih

/-- Segments that follow others are resolved from where those lead. -/
theorem resolve_append (front : List (List Char)) {rest : List (List Char)} (more : rest ≠ []) :
    resolve kind above (front ++ rest) = resolve kind (descend kind above front) rest := by
  induction front generalizing above with
  | nil => rfl
  | cons segment front ih =>
      rw [List.cons_append, resolve_cons_of_ne_nil (by simp [more]), descend]
      split
      · exact ih
      · split
        · exact ih
        · exact ih

/-- Resolved segments are those that they lead to, and at most one empty one after them. -/
theorem resolve_eq_descend (pieces : List (List Char)) :
    ∃ count, resolve kind above pieces =
      (descend kind above pieces).reverse ++ List.replicate count "" := by
  induction pieces generalizing above with
  | nil => exact ⟨0, by simp [resolve, descend]⟩
  | cons segment rest ih =>
      cases rest with
      | nil =>
          simp only [resolve, descend]
          split
          · exact ⟨1, by simp⟩
          · split
            · exact ⟨1, by simp⟩
            · exact ⟨0, by simp⟩
      | cons next rest =>
          rw [resolve, descend]
          split
          · exact ih
          · split
            · exact ih
            · exact ih

/-- The last segment is kept, unless it is a dot segment: then it is empty. -/
theorem resolve_singleton (last : List Char) :
    (resolve kind above [last] = (keptSegment kind above last :: above).reverse ∧
        isDoubleDot last = false ∧ isSingleDot last = false) ∨
      ∃ names, resolve kind above [last] = names ++ [""] := by
  unfold resolve
  cases double : isDoubleDot last with
  | true => exact .inr ⟨(parent kind above).reverse, by simp⟩
  | false =>
      cases single : isSingleDot last with
      | true => exact .inr ⟨above.reverse, by simp⟩
      | false => exact .inl (by simp)

section Web

variable {port : Nat}

/-- A segment of a web path as it is kept. -/
def encodedSegment (segment : List Char) : String :=
  String.ofList (Percent.encode Percent.inPath segment)

/-- On the web no segment names a disk drive. -/
theorem keptSegment_web (segment : List Char) :
    keptSegment (.web port) above segment = encodedSegment segment :=
  rfl

/-- Segments that are no dot segments lead to themselves. -/
theorem descend_of_regular {segments : List (List Char)}
    (regular : ∀ segment ∈ segments, isDoubleDot segment = false ∧ isSingleDot segment = false) :
    descend (.web port) above segments = (segments.map encodedSegment).reverse ++ above := by
  induction segments generalizing above with
  | nil => rfl
  | cons segment rest ih =>
      obtain ⟨⟨double, single⟩, others⟩ := List.forall_mem_cons.mp regular
      rw [descend, double, single, keptSegment_web]
      simp [ih others]

theorem descend_replicate_nil (count : Nat) :
    descend (.web port) above (List.replicate count []) = List.replicate count "" ++ above := by
  have regular : ∀ segment ∈ List.replicate count ([] : List Char),
      isDoubleDot segment = false ∧ isSingleDot segment = false := by
    intro segment among
    rw [List.eq_of_mem_replicate among]
    decide
  have empty : encodedSegment [] = "" := rfl
  rw [descend_of_regular regular, List.map_replicate, List.reverse_replicate, empty]

end Web

/-- The last part of a text that has been split ends the text, and is not split. -/
theorem exists_splitOnP_eq_append {α : Type} (separates : α → Bool) (text : List α) :
    ∃ front last, text.splitOnP separates = front ++ [last] ∧ last <:+ text ∧
      ∀ inside ∈ last, separates inside = false := by
  by_cases splits : ∃ mark ∈ text, separates mark = true
  · obtain ⟨mark, among, separating⟩ := splits
    obtain ⟨before, after, rfl⟩ := List.append_of_mem among
    obtain ⟨front, last, split, ends, unsplit⟩ := exists_splitOnP_eq_append separates after
    refine ⟨before.splitOnP separates ++ front, last, ?_, ?_, unsplit⟩
    · rw [List.splitOnP_append_cons _ _ separating, split, List.append_assoc]
    · exact ends.trans ((List.suffix_cons mark after).trans (List.suffix_append before _))
  · have unsplit : ∀ inside ∈ text, separates inside = false := by simpa using splits
    exact ⟨[], text, List.splitOnP_eq_singleton unsplit, List.suffix_refl text, unsplit⟩
termination_by text.length
decreasing_by simp_all; omega

end HostedCheckout.Url
