import HostedCheckout.Payment.Descriptor
import Mathlib.Data.List.Basic
import Mathlib.Data.Set.Function

/-!
# Packing and unpacking

Names are packed into a text with two delimiters, from which they are unpacked
again; and every text with two delimiters is packed from the names that it is
unpacked to.  Any other text is refused, with the number of its parts.
-/

namespace HostedCheckout

namespace ProductNames

open Descriptor

/-- The names without their delimiters. -/
def stripped (names : ProductNames) : ProductNames :=
  ⟨strip names.productName, strip names.displayName, strip names.providerName⟩

/-- The characters of the names, in the order in which they are packed. -/
def texts (names : ProductNames) : List (List Char) :=
  [names.productName.toList, names.displayName.toList, names.providerName.toList]

/-- Names without a delimiter. -/
def Bare (names : ProductNames) : Prop :=
  ∀ text ∈ names.texts, delimiter ∉ text

theorem delimiter_not_mem_strip (text : String) : delimiter ∉ (strip text).toList := by
  simp [strip]

theorem strip_of_not_mem {text : String} (bare : delimiter ∉ text.toList) : strip text = text := by
  have kept : text.toList.filter (· ≠ delimiter) = text.toList := by
    rw [List.filter_eq_self]
    intro character among
    simpa using fun same : character = delimiter => bare (same ▸ among)
  rw [strip, kept, String.ofList_toList]

theorem bare_stripped (names : ProductNames) : names.stripped.Bare := by
  simp [Bare, texts, stripped, delimiter_not_mem_strip]

theorem stripped_of_bare {names : ProductNames} (bare : names.Bare) : names.stripped = names := by
  simp only [Bare, texts, List.forall_mem_cons] at bare
  obtain ⟨product, display, provider, -⟩ := bare
  rw [stripped, strip_of_not_mem product, strip_of_not_mem display, strip_of_not_mem provider]

end ProductNames

namespace Descriptor

/-! ## Parts -/

/-- A text is split into one more part than it has separators. -/
theorem length_splitOn (separator : Char) (text : List Char) :
    (text.splitOn separator).length = text.count separator + 1 := by
  induction text with
  | nil => rfl
  | cons character rest ih =>
      rw [List.splitOn_cons_eq_if_modifyHead, List.count_cons]
      split
      · rw [List.length_cons, ih]
      · rw [List.length_modifyHead, ih, Nat.add_zero]

/-- No part holds a separator. -/
theorem not_mem_of_mem_splitOn {separator : Char} {text part : List Char}
    (among : part ∈ text.splitOn separator) : separator ∉ part := by
  induction text generalizing part with
  | nil =>
      obtain rfl : part = [] := by simpa using among
      exact List.not_mem_nil
  | cons character rest ih =>
      rw [List.splitOn_cons_eq_if_modifyHead] at among
      split at among
      · rcases List.mem_cons.mp among with rfl | later
        · exact List.not_mem_nil
        · exact ih later
      · rename_i other
        cases split : rest.splitOn separator with
        | nil => exact absurd split (List.splitOn_ne_nil _ _)
        | cons head tail =>
            rw [split, List.modifyHead_cons] at among
            rcases List.mem_cons.mp among with rfl | later
            · have outside : separator ∉ head := ih (by simp [split])
              simp only [List.mem_cons, not_or]
              exact ⟨fun same => other (by simp [same]), outside⟩
            · exact ih (by simp [split, later])

theorem length_parts (packed : String) :
    (parts packed).length = packed.toList.count delimiter + 1 :=
  length_splitOn delimiter packed.toList

theorem toList_pack (names : ProductNames) :
    (pack names).toList = [delimiter].intercalate names.stripped.texts := by
  simp [pack, ProductNames.stripped, ProductNames.texts, List.intercalate, List.intersperse]

theorem parts_pack (names : ProductNames) : parts (pack names) = names.stripped.texts := by
  rw [parts, toList_pack]
  exact List.splitOn_intercalate delimiter names.bare_stripped (List.cons_ne_nil _ _)

/-! ## Unpacking -/

theorem unpack_of_parts {packed : String} {names : ProductNames}
    (split : parts packed = names.texts) : unpack packed = .ok names := by
  simp [unpack, split, ProductNames.texts]

theorem unpack_of_length {packed : String} (length : (parts packed).length ≠ fieldCount) :
    unpack packed = .error (parts packed).length := by
  unfold unpack
  split
  · rename_i split
    exact absurd (congrArg List.length split) length
  · rfl

theorem unpack_pack (names : ProductNames) : unpack (pack names) = .ok names.stripped :=
  unpack_of_parts (parts_pack names)

/-- A text with three parts is packed from them. -/
theorem exists_unpack_of_length {packed : String} (length : (parts packed).length = fieldCount) :
    ∃ names, unpack packed = .ok names ∧ names.Bare ∧ pack names = packed := by
  obtain ⟨product, display, provider, split⟩ := List.length_eq_three.mp length
  let names : ProductNames :=
    ⟨String.ofList product, String.ofList display, String.ofList provider⟩
  have texts : parts packed = names.texts := by simp [split, names, ProductNames.texts]
  have bare : names.Bare := by
    intro text among
    rw [← texts] at among
    exact not_mem_of_mem_splitOn among
  refine ⟨names, unpack_of_parts texts, bare, ?_⟩
  rw [← String.toList_inj, toList_pack, ProductNames.stripped_of_bare bare, ← texts, parts]
  exact List.intercalate_splitOn delimiter

/-- Names without a delimiter are told apart by what they are packed into. -/
theorem pack_injOn : Set.InjOn pack {names | names.Bare} := by
  intro first firstBare second secondBare same
  have unpacked : unpack (pack first) = unpack (pack second) := congrArg unpack same
  rw [unpack_pack, unpack_pack, ProductNames.stripped_of_bare firstBare,
    ProductNames.stripped_of_bare secondBare] at unpacked
  exact Except.ok.inj unpacked

theorem count_pack (names : ProductNames) : (pack names).toList.count delimiter = 2 := by
  have length := length_parts (pack names)
  rw [parts_pack] at length
  exact (Nat.succ.inj length).symm

/-- Packing and unpacking are inverse to each other.  What was packed is unpacked
to the names without their delimiters; a text with two delimiters is unpacked to
names without any, from which it is packed; and a text with another number of
delimiters is refused with the number of its parts.  So packing is injective on
names without delimiters, and makes just the texts with two. -/
theorem pack_inverse_unpack :
    (∀ names, unpack (pack names) = .ok names.stripped) ∧
    (∀ packed : String, packed.toList.count delimiter = 2 →
      ∃ names, unpack packed = .ok names ∧ names.Bare ∧ pack names = packed) ∧
    (∀ packed : String, packed.toList.count delimiter ≠ 2 →
      unpack packed = .error (packed.toList.count delimiter + 1)) ∧
    (∀ found, malformedMessage found =
      s!"Malformed descriptor: expected 3 fields, found {found}") ∧
    Set.InjOn pack {names | names.Bare} ∧
    Set.range pack = {packed | packed.toList.count delimiter = 2} := by
  have inverse (packed : String) (two : packed.toList.count delimiter = 2) :
      ∃ names, unpack packed = .ok names ∧ names.Bare ∧ pack names = packed :=
    exists_unpack_of_length (by rw [length_parts, two, fieldCount])
  refine ⟨unpack_pack, inverse, ?_, fun _ => rfl, pack_injOn, ?_⟩
  · intro packed others
    have length : (parts packed).length ≠ fieldCount := by
      rw [length_parts, fieldCount]
      omega
    rw [unpack_of_length length, length_parts]
  · ext packed
    constructor
    · rintro ⟨names, rfl⟩
      exact count_pack names
    · intro two
      obtain ⟨names, -, -, packs⟩ := inverse packed two
      exact ⟨names, packs⟩

/-- A name loses its delimiter, three empty names are packed into two delimiters, and
three delimiters are too many. -/
theorem pack_inverse_unpack_of_samples :
    unpack (pack ⟨"a\ue000x", "|, \n", ""⟩) = .ok ⟨"ax", "|, \n", ""⟩ ∧
    (∃ names, unpack "\ue000\ue000" = .ok names ∧ names.Bare ∧ pack names = "\ue000\ue000") ∧
    unpack "\ue000b\ue000\ue000d" = .error 4 := by
  obtain ⟨packed, two, others, -⟩ := pack_inverse_unpack
  have stripped : ProductNames.stripped ⟨"a\ue000x", "|, \n", ""⟩ = ⟨"ax", "|, \n", ""⟩ := by
    decide
  refine ⟨?_, two _ (by decide), others _ (by decide)⟩
  rw [packed, stripped]

end Descriptor

end HostedCheckout
