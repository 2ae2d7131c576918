import HostedCheckout.Proofs.Url.Segments
import Mathlib.Data.List.TakeWhile

/-!
# Extending a path

A web URL without query and fragment is extended by a slash and any text, or only seems
to be: what the text comes to depends on what it has of dots, slashes, marks and blanks.
Scheme and authority stay the same, and the path is resolved from where it led before.
-/

namespace HostedCheckout.Url

/-! ## Blanks and breaks -/

/-- Whether a character is dropped at both ends of a URL. -/
def isBlank (character : Char) : Bool :=
  decide (character.toNat ≤ 0x20)

/-- A text without the characters that are dropped everywhere in a URL. -/
def unbroken (text : List Char) : List Char :=
  text.filter fun character => character != '\t' && character != '\n' && character != '\r'

/-- What a text comes to at the end of a URL. -/
def tidied (text : List Char) : List Char :=
  unbroken (text.reverse.dropWhile isBlank).reverse

theorem cleaned_eq (text : List Char) : cleaned text = tidied (text.dropWhile isBlank) :=
  rfl

theorem unbroken_append (first second : List Char) :
    unbroken (first ++ second) = unbroken first ++ unbroken second :=
  List.filter_append ..

theorem unbroken_replicate_slash (count : Nat) :
    unbroken (List.replicate count '/') = List.replicate count '/' :=
  List.filter_replicate_of_pos rfl

/-- Nothing is dropped at the end of a text that does not end with a blank, breaks apart. -/
theorem tidied_of_solid {text : List Char}
    (solid : ∀ last ∈ (unbroken text).getLast?, isBlank last = false) :
    tidied text = unbroken text := by
  let blanks := (text.reverse.takeWhile isBlank).reverse
  have parts : (text.reverse.dropWhile isBlank).reverse ++ blanks = text := by
    rw [← List.reverse_append, List.takeWhile_append_dropWhile, List.reverse_reverse]
  have nothing : unbroken blanks = [] := by
    by_contra some
    obtain ⟨last, ends⟩ := Option.ne_none_iff_exists'.mp (mt List.getLast?_eq_none_iff.mp some)
    have among : last ∈ blanks := (List.mem_filter.mp (List.mem_of_getLast? ends)).1
    have blank : isBlank last = true := List.mem_takeWhile_imp (List.mem_reverse.mp among)
    have solidLast : isBlank last = false := by
      refine solid last ?_
      rw [← parts, unbroken_append, List.getLast?_append, ends]
      rfl
    rw [blank] at solidLast
    exact absurd solidLast.symm Bool.false_ne_true
  calc
    tidied text = unbroken ((text.reverse.dropWhile isBlank).reverse ++ blanks) := by
      rw [unbroken_append, nothing, List.append_nil, tidied]
    _ = unbroken text := by rw [parts]

theorem tidied_append_slash (front rest : List Char) :
    tidied (front ++ '/' :: rest) = unbroken front ++ '/' :: tidied rest := by
  have dropped : ((front ++ '/' :: rest).reverse.dropWhile isBlank).reverse =
      front ++ '/' :: (rest.reverse.dropWhile isBlank).reverse := by
    have solid : isBlank '/' = false := rfl
    rw [List.reverse_append, List.reverse_cons, List.append_assoc, List.dropWhile_append]
    split
    · rename_i blank
      rw [List.isEmpty_iff] at blank
      simp [blank, solid]
    · simp
  unfold tidied
  rw [dropped, unbroken_append]
  rfl

/-- What is dropped at the front of a text does not depend on what follows, unless all
of it is dropped. -/
theorem dropWhile_append_of_ne_nil {α : Type} {drops : α → Bool} {text : List α}
    (kept : text.dropWhile drops ≠ []) (rest : List α) :
    (text ++ rest).dropWhile drops = text.dropWhile drops ++ rest := by
  rw [List.dropWhile_append, if_neg (by simpa using kept)]

theorem takeWhile_append_of_ne_nil {α : Type} {takes : α → Bool} {text : List α}
    (stops : text.dropWhile takes ≠ []) (rest : List α) :
    (text ++ rest).takeWhile takes = text.takeWhile takes := by
  have shorter : (text.takeWhile takes).length ≠ text.length := by
    intro same
    have parts := congrArg List.length (text.takeWhile_append_dropWhile (p := takes))
    rw [List.length_append, same] at parts
    exact stops (List.eq_nil_of_length_eq_zero (by omega))
  rw [List.takeWhile_append, if_neg shorter]

/-! ## Cutting -/

theorem cut_append {mark : Char} {front : List Char} (unmarked : mark ∉ front) (rest : List Char) :
    cut mark (front ++ rest) = (front ++ (cut mark rest).1, (cut mark rest).2) := by
  have before : ∀ character ∈ front, decide (character ≠ mark) = true := by
    intro character among
    simpa using ne_of_mem_of_not_mem among unmarked
  unfold cut
  rw [List.takeWhile_append_of_pos before, List.dropWhile_append_of_pos before]

theorem whole_of_cut {mark : Char} {text : List Char} (whole : (cut mark text).2 = none) :
    mark ∉ text ∧ (cut mark text).1 = text := by
  have passed : text.dropWhile (· ≠ mark) = [] := by
    unfold cut at whole
    dsimp only at whole
    split at whole
    · assumption
    · exact absurd whole (Option.some_ne_none _)
  have before := List.dropWhile_eq_nil_iff.mp passed
  refine ⟨fun among => ?_, List.takeWhile_eq_self_iff.mpr before⟩
  simpa using before mark among

/-- A text without query and fragment is a path. -/
theorem unmarked_of_splitTail {text : List Char} (noQuery : (splitTail text).query = none)
    (noFragment : (splitTail text).fragment = none) :
    '#' ∉ text ∧ '?' ∉ text ∧ (splitTail text).path = text := by
  obtain ⟨noHash, beforeHash⟩ := whole_of_cut noFragment
  unfold splitTail at noQuery ⊢
  dsimp only at noQuery ⊢
  rw [beforeHash] at noQuery ⊢
  obtain ⟨noMark, beforeMark⟩ := whole_of_cut noQuery
  exact ⟨noHash, noMark, beforeMark⟩

/-- What comes before a path of a text belongs to it, if it has no marks. -/
theorem splitTail_append {front : List Char} (noHash : '#' ∉ front) (noMark : '?' ∉ front)
    (rest : List Char) :
    splitTail (front ++ rest) =
      ⟨front ++ (splitTail rest).path, (splitTail rest).query, (splitTail rest).fragment⟩ := by
  unfold splitTail
  rw [cut_append noHash]
  dsimp only
  rw [cut_append noMark]

theorem splitTail_append_slash {front : List Char} (noHash : '#' ∉ front) (noMark : '?' ∉ front)
    (rest : List Char) :
    splitTail (front ++ '/' :: rest) =
      ⟨front ++ '/' :: (splitTail rest).path, (splitTail rest).query,
        (splitTail rest).fragment⟩ := by
  have slash : '#' ∉ ['/'] ∧ '?' ∉ ['/'] := by decide
  have after := splitTail_append slash.1 slash.2 rest
  rw [List.singleton_append] at after
  rw [splitTail_append noHash noMark, after]
  rfl

theorem splitTail_of_unmarked {text : List Char} (noHash : '#' ∉ text) (noMark : '?' ∉ text) :
    splitTail text = ⟨text, none, none⟩ := by
  have nothing : splitTail [] = ⟨[], none, none⟩ := rfl
  have whole := splitTail_append noHash noMark []
  rwa [List.append_nil, nothing, List.append_nil] at whole

/-! ## Paths -/

/-- A text without the slash that it may begin with. -/
def afterSlash (kind : SchemeKind) (text : List Char) : List Char :=
  match text with
  | first :: rest => if kind.isSlash first then rest else text
  | [] => []

theorem splitOnP_append_replicate {α : Type} {separates : α → Bool} {mark : α}
    (separating : separates mark = true) (text : List α) (count : Nat) :
    (text ++ List.replicate count mark).splitOnP separates =
      text.splitOnP separates ++ List.replicate count [] := by
  induction count generalizing text with
  | zero => simp
  | succ count ih =>
      have rest := ih []
      rw [List.nil_append, List.splitOnP_nil] at rest
      rw [List.replicate_succ, List.splitOnP_append_cons _ _ separating, rest]
      rfl

/-- The parts of a path stay what they are when it goes on. -/
theorem exists_pieces (kind : SchemeKind) (path : List Char) :
    ∃ pieces : List (List Char),
      (∀ rest, readSegments kind (path ++ '/' :: rest) =
        resolve kind [] (pieces ++ rest.splitOnP kind.isSlash)) ∧
      ∀ count, ∃ more, readSegments kind (path ++ List.replicate count '/') =
        resolve kind [] (pieces ++ List.replicate more []) := by
  have slash : kind.isSlash '/' = true := rfl
  cases path with
  | nil =>
      refine ⟨[], fun rest => rfl, fun count => ?_⟩
      cases count with
      | zero => exact ⟨1, rfl⟩
      | succ count =>
          refine ⟨count + 1, ?_⟩
          have split := splitOnP_append_replicate slash [] count
          rw [List.nil_append, List.splitOnP_nil] at split
          change resolve kind [] ((List.replicate count '/').splitOnP kind.isSlash) = _
          rw [split]
          rfl
  | cons first others =>
      have reads (rest : List Char) : readSegments kind (first :: others ++ rest) =
          resolve kind []
            (((if kind.isSlash first then others else first :: others) ++ rest).splitOnP
              kind.isSlash) := by
        unfold readSegments
        dsimp only [List.cons_append]
        split <;> rfl
      refine ⟨(if kind.isSlash first then others else first :: others).splitOnP kind.isSlash,
        fun rest => ?_, fun count => ⟨count, ?_⟩⟩
      · rw [reads, List.splitOnP_append_cons _ _ slash]
      · rw [reads, splitOnP_append_replicate slash]

/-- The segments of a web path stay where they are when it goes on. -/
theorem readSegments_append (port : Nat) (path : List Char) :
    ∃ names,
      (∀ count, ∃ more, readSegments (.web port) (path ++ List.replicate count '/') =
        names ++ List.replicate more "") ∧
      ∀ rest, readSegments (.web port) (path ++ '/' :: rest) =
        resolve (.web port) names.reverse (rest.splitOnP (SchemeKind.web port).isSlash) := by
  obtain ⟨pieces, goesOn, ends⟩ := exists_pieces (.web port) path
  refine ⟨(descend (.web port) [] pieces).reverse, fun count => ?_, fun rest => ?_⟩
  · obtain ⟨more, read⟩ := ends count
    obtain ⟨last, resolved⟩ : ∃ last,
        resolve (.web port) [] (pieces ++ List.replicate more []) =
          (descend (.web port) [] (pieces ++ List.replicate more [])).reverse ++
            List.replicate last "" := resolve_eq_descend _
    refine ⟨more + last, ?_⟩
    rw [read, resolved, descend_append, descend_replicate_nil]
    simp
  · rw [goesOn, resolve_append pieces (List.splitOnP_ne_nil _ _), List.reverse_reverse]

theorem readPath_web (port : Nat) (text : List Char) :
    readPath (.web port) text = .segments (readSegments (.web port) text) := by
  simp [readPath, SchemeKind.isSpecial]

/-! ## Schemes and authorities -/

theorem splitScheme?_append {text : List Char} (marked : ':' ∈ text) (rest : List Char) :
    splitScheme? (text ++ rest) = (splitScheme? text).map fun (scheme, left) =>
      (scheme, left ++ rest) := by
  have reached : text.dropWhile (· ≠ ':') ≠ [] := by
    rw [ne_eq, List.dropWhile_eq_nil_iff]
    intro passed
    simpa using passed ':' marked
  unfold splitScheme?
  rw [takeWhile_append_of_ne_nil reached, dropWhile_append_of_ne_nil reached]
  cases text.takeWhile (· ≠ ':') with
  | nil => rfl
  | cons first others =>
      cases dropped : text.dropWhile (· ≠ ':') with
      | nil => exact absurd dropped reached
      | cons colon left =>
          dsimp only [List.cons_append]
          split <;> rfl

theorem splitScheme?_of_not_mem {text : List Char} (unmarked : ':' ∉ text) :
    splitScheme? text = none := by
  have passed : text.dropWhile (· ≠ ':') = [] := by
    rw [List.dropWhile_eq_nil_iff]
    intro character among
    simpa using ne_of_mem_of_not_mem among unmarked
  unfold splitScheme?
  rw [passed]
  split
  · contradiction
  · rfl

/-- A scheme is found before any slashes at the end, and whatever follows instead of them. -/
theorem exists_splitScheme?_append {front left : List Char} {count : Nat} {scheme : String}
    (split : splitScheme? (front ++ List.replicate count '/') = some (scheme, left)) :
    ∃ written, left = written ++ List.replicate count '/' ∧
      ∀ rest, splitScheme? (front ++ rest) = some (scheme, written ++ rest) := by
  have marked : ':' ∈ front := by
    by_contra unmarked
    have nowhere : ':' ∉ front ++ List.replicate count '/' := by
      simp [unmarked]
    rw [splitScheme?_of_not_mem nowhere] at split
    exact absurd split (Option.some_ne_none _).symm
  rw [splitScheme?_append marked] at split
  obtain ⟨⟨_, written⟩, begins, same⟩ := Option.map_eq_some_iff.mp split
  cases same
  exact ⟨written, rfl, fun rest => by rw [splitScheme?_append marked, begins]; rfl⟩

/-- A text that an authority is not continued by: there is none, or it begins with a slash. -/
def EndsAuthority (rest : List Char) : Prop :=
  ∀ first ∈ rest.head?, first = '/'

theorem endsAuthority_replicate (count : Nat) : EndsAuthority (List.replicate count '/') := by
  intro first among
  cases count with
  | zero => cases among
  | succ => exact (Option.some.inj among).symm

theorem endsAuthority_slash (rest : List Char) : EndsAuthority ('/' :: rest) :=
  fun _ among => (Option.some.inj among).symm

/-- What follows an authority is not looked at before the authority has been read. -/
theorem afterSlashes?_append (scheme : String) (kind : SchemeKind) (text : List Char) :
    ∃ read : Option (Authority × List Char), ∀ rest, EndsAuthority rest →
      afterSlashes? scheme kind (text ++ rest) =
        read.map fun (authority, path) =>
          assemble scheme kind authority (readPath kind (splitTail (path ++ rest)).path)
            (splitTail (path ++ rest)) := by
  let inside : Char → Bool := fun character => !kind.endsAuthority character
  refine ⟨(authority? kind (text.takeWhile inside)).map fun (authority, left) =>
    (authority, left ++ text.dropWhile inside), fun rest ends => ?_⟩
  have outside : rest.takeWhile inside = [] ∧ rest.dropWhile inside = rest := by
    cases rest with
    | nil => exact ⟨rfl, rfl⟩
    | cons first others =>
        obtain rfl := ends first rfl
        exact ⟨rfl, rfl⟩
  have parted : (text ++ rest).takeWhile inside = text.takeWhile inside ∧
      (text ++ rest).dropWhile inside = text.dropWhile inside ++ rest := by
    by_cases whole : text.dropWhile inside = []
    · have all := List.dropWhile_eq_nil_iff.mp whole
      rw [List.takeWhile_append_of_pos all, List.dropWhile_append_of_pos all, whole,
        List.takeWhile_eq_self_iff.mpr all, outside.1, outside.2, List.append_nil]
      exact ⟨rfl, rfl⟩
    · exact ⟨takeWhile_append_of_ne_nil whole rest, dropWhile_append_of_ne_nil whole rest⟩
  change (do
    let (authority, left) ← authority? kind ((text ++ rest).takeWhile inside)
    let tail := splitTail (left ++ (text ++ rest).dropWhile inside)
    return assemble scheme kind authority (readPath kind tail.path) tail) = _
  rw [parted.1, parted.2]
  cases authority? kind (text.takeWhile inside) with
  | none => rfl
  | some read => simp

/-! ## URLs -/

/-- Read a text that has been cleaned. -/
def read? (text : List Char) : Option Url := do
  let (scheme, rest) ← splitScheme? text
  match schemeKind scheme with
  | .web port => afterSlashes? scheme (.web port) (rest.dropWhile (SchemeKind.web port).isSlash)
  | .file => file? rest
  | .other => other? scheme rest

theorem parse?_eq_read? (text : String) : parse? text = read? (cleaned text.toList) :=
  rfl

theorem scheme_of_file? {text : List Char} {url : Url} (read : file? text = some url) :
    url.scheme = "file" := by
  unfold file? at read
  dsimp only at read
  split at read
  · split at read
    · split at read
      · cases read
        rfl
      · obtain ⟨host, -, rfl⟩ := Option.map_eq_some_iff.mp read
        rfl
    · cases read
      rfl
  · cases read
    rfl

theorem scheme_of_afterSlashes? {scheme : String} {kind : SchemeKind} {text : List Char} {url : Url}
    (read : afterSlashes? scheme kind text = some url) : url.scheme = scheme := by
  obtain ⟨authority, -, same⟩ := Option.bind_eq_some_iff.mp read
  cases same
  rfl

theorem scheme_of_other? {scheme : String} {text : List Char} {url : Url}
    (read : other? scheme text = some url) : url.scheme = scheme := by
  unfold other? at read
  split at read
  · exact scheme_of_afterSlashes? read
  · cases read
    rfl
  · cases read
    rfl

/-- A URL that requests can be sent to is read as a web URL. -/
theorem exists_web_of_read? {text : List Char} {url : Url} (read : read? text = some url)
    (sendable : url.isHttp = true) :
    ∃ scheme left port, splitScheme? text = some (scheme, left) ∧ schemeKind scheme = .web port ∧
      afterSlashes? scheme (.web port) (left.dropWhile (SchemeKind.web port).isSlash) =
        some url := by
  obtain ⟨⟨scheme, left⟩, split, rest⟩ := Option.bind_eq_some_iff.mp read
  have named : url.scheme = "http" ∨ url.scheme = "https" := by
    simpa [Url.isHttp] using sendable
  cases kind : schemeKind scheme with
  | web port =>
      simp only [kind] at rest
      exact ⟨scheme, left, port, split, kind, rest⟩
  | file =>
      simp only [kind] at rest
      rw [scheme_of_file? rest] at named
      simp at named
  | other =>
      simp only [kind] at rest
      rw [scheme_of_other? rest] at named
      rcases named with rfl | rfl <;> cases kind

theorem afterSlashes?_nil (scheme : String) (port : Nat) :
    afterSlashes? scheme (.web port) [] = none := by
  rfl

/-- Of a web URL there is more than slashes after the scheme. -/
theorem dropWhile_isSlash_ne_nil {scheme : String} {port count : Nat} {written : List Char}
    {url : Url}
    (after : afterSlashes? scheme (.web port) ((written ++ List.replicate count '/').dropWhile
      (SchemeKind.web port).isSlash) = some url) :
    written.dropWhile (SchemeKind.web port).isSlash ≠ [] := by
  intro slashes
  have all := List.dropWhile_eq_nil_iff.mp slashes
  have nothing : (written ++ List.replicate count '/').dropWhile
      (SchemeKind.web port).isSlash = [] := by
    rw [List.dropWhile_append_of_pos all, List.dropWhile_replicate_eq_filter_not,
      List.filter_replicate]
    rfl
  rw [nothing, afterSlashes?_nil] at after
  exact absurd after (Option.some_ne_none _).symm

/-- A web URL without query and fragment is extended by reading what follows after it. -/
theorem exists_extension {front : List Char} {count : Nat} {home : Url}
    (read : read? (front ++ List.replicate count '/') = some home)
    (sendable : home.isHttp = true) (noQuery : home.query = none)
    (noFragment : home.fragment = none) :
    ∃ port names more, home.path = .segments (names ++ List.replicate more "") ∧
      ∀ rest, read? (front ++ '/' :: rest) =
        some (assemble home.scheme (.web port) home.authority
          (.segments (resolve (.web port) names.reverse
            ((splitTail rest).path.splitOnP (SchemeKind.web port).isSlash)))
          (splitTail rest)) := by
  obtain ⟨scheme, left, port, split, kind, after⟩ := exists_web_of_read? read sendable
  obtain ⟨written, rfl, begins⟩ := exists_splitScheme?_append split
  have solid := dropWhile_isSlash_ne_nil after
  rw [dropWhile_append_of_ne_nil solid] at after
  obtain ⟨addressed, reads⟩ :=
    afterSlashes?_append scheme (.web port) (written.dropWhile (SchemeKind.web port).isSlash)
  rw [reads _ (endsAuthority_replicate count)] at after
  obtain ⟨⟨authority, path⟩, found, rfl⟩ := Option.map_eq_some_iff.mp after
  obtain ⟨noHash, noMark, isPath⟩ := unmarked_of_splitTail (Option.map_eq_none_iff.mp noQuery)
    (Option.map_eq_none_iff.mp noFragment)
  obtain ⟨names, ends, goesOn⟩ := readSegments_append port path
  obtain ⟨more, segments⟩ := ends count
  refine ⟨port, names, more, ?_, fun rest => ?_⟩
  · simp only [assemble, isPath]
    rw [readPath_web, segments]
  · rw [List.mem_append, not_or] at noHash noMark
    unfold read?
    rw [begins]
    simp only [Option.bind_eq_bind, Option.bind_some, kind]
    rw [dropWhile_append_of_ne_nil solid, reads _ (endsAuthority_slash rest), found]
    simp only [Option.map_some, splitTail_append_slash noHash.1 noMark.1]
    rw [readPath_web, goesOn]
    rfl

theorem mem_of_mem_cleaned {text : List Char} {character : Char}
    (among : character ∈ cleaned text) : character ∈ text := by
  rw [cleaned_eq, tidied, unbroken] at among
  have kept := List.mem_reverse.mp (List.mem_filter.mp among).1
  have trimmed := List.mem_reverse.mp ((List.dropWhile_sublist _).mem kept)
  exact (List.dropWhile_sublist _).mem trimmed

/-- A web address without query and fragment, up to slashes at its end, is extended by
reading what has been tidied of the text that follows. -/
theorem exists_parse?_extension {base : List Char} {count : Nat} {address : String} {home : Url}
    (written : address.toList = base ++ List.replicate count '/')
    (solid : ∀ last ∈ (unbroken address.toList).getLast?, isBlank last = false)
    (read : parse? address = some home) (sendable : home.isHttp = true)
    (noQuery : home.query = none) (noFragment : home.fragment = none) :
    ∃ port names more, home.path = .segments (names ++ List.replicate more "") ∧
      ∀ (longer : String) rest, longer.toList = base ++ '/' :: rest →
        parse? longer = some (assemble home.scheme (.web port) home.authority
          (.segments (resolve (.web port) names.reverse
            ((splitTail (tidied rest)).path.splitOnP (SchemeKind.web port).isSlash)))
          (splitTail (tidied rest))) := by
  rw [parse?_eq_read?, written] at read
  have begins : base.dropWhile isBlank ≠ [] := by
    intro blank
    have unmarked : ':' ∉ cleaned (base ++ List.replicate count '/') := by
      intro among
      rcases List.mem_append.mp (mem_of_mem_cleaned among) with inBase | inSlashes
      · exact absurd (List.dropWhile_eq_nil_iff.mp blank ':' inBase) (by decide)
      · exact absurd (List.eq_of_mem_replicate inSlashes) (by decide)
    rw [read?, splitScheme?_of_not_mem unmarked] at read
    exact absurd read (Option.some_ne_none _).symm
  have solidEnd : ∀ last ∈
      (unbroken (base.dropWhile isBlank ++ List.replicate count '/')).getLast?,
        isBlank last = false := by
    intro last ends
    refine solid last ?_
    rw [written, ← List.takeWhile_append_dropWhile (p := isBlank) (l := base), List.append_assoc,
      unbroken_append, List.getLast?_append, ends]
    rfl
  rw [cleaned_eq, dropWhile_append_of_ne_nil begins, tidied_of_solid solidEnd, unbroken_append,
    unbroken_replicate_slash] at read
  obtain ⟨port, names, more, path, goingOn⟩ :=
    exists_extension read sendable noQuery noFragment
  refine ⟨port, names, more, path, fun longer rest goesOn => ?_⟩
  rw [parse?_eq_read?, goesOn, cleaned_eq, dropWhile_append_of_ne_nil begins,
    tidied_append_slash, goingOn]

end HostedCheckout.Url
