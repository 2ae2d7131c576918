import HostedCheckout.Proofs.Merchant.Performance
import HostedCheckout.Proofs.Text.Utf8
import HostedCheckout.Proofs.Url.Plain

/-!
# Where inquiries go

The identifier of an intent is written at the end of the address of an inquiry as it is.
If it is plain, the inquiry goes where the gateway has the intent, and inquiries for
other plain identifiers go elsewhere.  If it is not, the inquiry does not go there: dots
and slashes lead to any other document of the gateway.
-/

namespace HostedCheckout

open Json

/-- The URL that a request goes to: the one that its address is read as, without
credentials and fragment. -/
def Url.requested (url : Url) : String :=
  (Draft.takeCredentials url).2.textWithoutFragment

/-- A URL under which a gateway has an intent: it extends the address of the gateway, up to
empty segments at its end, by the path of all intents and one more segment, which stands
for the identifier. -/
structure Url.Locates (home target : Url) (id : String) : Prop where
  scheme_eq : target.scheme = home.scheme
  authority_eq : target.authority = home.authority
  path_eq : ∃ names more written,
    home.path = .segments (names ++ List.replicate more "") ∧
    target.path = .segments (names ++ ["api", "v1", "pa", "payment_intents", written]) ∧
    Percent.decode (Bytes.ofString written) = Bytes.ofString id
  query_eq : target.query = none

namespace Account

open Url

theorem exists_toList_trimEnd (text : String) :
    ∃ count, text.toList = (trimEnd text).toList ++ List.replicate count '/' := by
  have slashes : ∀ character ∈ text.toList.reverse.takeWhile (· == '/'), character = '/' := by
    intro character among
    simpa using List.mem_takeWhile_imp among
  have parts := text.toList.reverse.takeWhile_append_dropWhile (p := (· == '/'))
  rw [List.eq_replicate_of_mem slashes] at parts
  refine ⟨(text.toList.reverse.takeWhile (· == '/')).length, ?_⟩
  rw [trimEnd, String.toList_ofList, ← List.reverse_replicate, ← List.reverse_append, parts,
    List.reverse_reverse]

/-- The path of all intents, as it is written. -/
def intentsText : List Char := "api/v1/pa/payment_intents".toList

theorem toList_address_inquiry (account : Account) (id : String) :
    (account.address (Demand.inquiry id).path).toList =
      (trimEnd account.endpoint).toList ++ '/' :: (intentsText ++ '/' :: id.toList) := by
  have path : trimStart (Demand.inquiry id).path = "pa/payment_intents/" ++ id := by
    change String.ofList (("pa/payment_intents" ++ "/" ++ id).toList.dropWhile (· == '/')) = _
    rw [← String.toList_inj, String.toList_ofList, String.toList_append, String.toList_append,
      String.toList_append]
    rfl
  change (trimEnd account.endpoint ++ "/api/v1/" ++ trimStart (Demand.inquiry id).path).toList = _
  rw [path, String.toList_append, String.toList_append, String.toList_append, List.append_assoc]
  rfl

theorem splitOnP_intentsText (port : Nat) :
    intentsText.splitOnP (SchemeKind.web port).isSlash =
      ["api".toList, "v1".toList, "pa".toList, "payment_intents".toList] := by
  rfl

theorem splitTail_intentsText (text : List Char) :
    splitTail (tidied (intentsText ++ '/' :: text)) =
      ⟨intentsText ++ '/' :: (splitTail (tidied text)).path, (splitTail (tidied text)).query,
        (splitTail (tidied text)).fragment⟩ := by
  have unbroken : unbroken intentsText = intentsText := rfl
  have unmarked : '#' ∉ intentsText ∧ '?' ∉ intentsText := by decide
  rw [tidied_append_slash, unbroken, splitTail_append_slash unmarked.1 unmarked.2]

/-- What follows the path of all intents is read from where that path leads. -/
theorem endSegments_intentsText (port : Nat) (names : List String) (text : List Char) :
    endSegments port names.reverse (intentsText ++ '/' :: text) =
      endSegments port (["payment_intents", "pa", "v1", "api"] ++ names.reverse) text := by
  have slash : (SchemeKind.web port).isSlash '/' = true := rfl
  have regular : ∀ segment ∈ ["api".toList, "v1".toList, "pa".toList, "payment_intents".toList],
      isDoubleDot segment = false ∧ isSingleDot segment = false := by
    decide
  unfold endSegments
  rw [splitTail_intentsText, List.splitOnP_append_cons _ _ slash, splitOnP_intentsText,
    resolve_append _ (List.splitOnP_ne_nil _ _), descend_of_regular regular]
  rfl

/-- The URL of an inquiry, as far as it depends on the identifier. -/
def inquiryUrl (home : Url) (port : Nat) (names : List String) (id : String) : Url :=
  assemble home.scheme (.web port) home.authority
    (.segments (endSegments port (["payment_intents", "pa", "v1", "api"] ++ names.reverse)
      id.toList))
    (splitTail (tidied id.toList))

/-- Every inquiry goes to a URL that is read from the identifier in one way. -/
theorem exists_inquiryUrl {account : Account} {home : Url}
    (read : parse? account.endpoint = some home) (sendable : home.isHttp = true)
    (noQuery : home.query = none) (noFragment : home.fragment = none)
    (solid : ∀ last ∈ (unbroken account.endpoint.toList).getLast?, isBlank last = false) :
    ∃ port names more, home.path = .segments (names ++ List.replicate more "") ∧
      ∀ id, parse? (account.address (Demand.inquiry id).path) =
        some (inquiryUrl home port names id) := by
  obtain ⟨count, written⟩ := exists_toList_trimEnd account.endpoint
  obtain ⟨port, names, more, path, extension⟩ :=
    exists_parse?_extension written solid read sendable noQuery noFragment
  refine ⟨port, names, more, path, fun id => ?_⟩
  rw [extension _ _ (account.toList_address_inquiry id)]
  change some (assemble home.scheme (.web port) home.authority
    (.segments (endSegments port names.reverse (intentsText ++ '/' :: id.toList)))
    (splitTail (tidied (intentsText ++ '/' :: id.toList)))) = _
  rw [endSegments_intentsText, splitTail_intentsText]
  rfl

variable {account : Account} {home : Url} {port : Nat} {names : List String} {more : Nat}
  {id : String}

theorem inquiryUrl_of_plain (plain : Plain id.toList) :
    inquiryUrl home port names id =
      { home with
        path := .segments
          (names ++ ["api", "v1", "pa", "payment_intents"] ++ [encodedSegment id.toList])
        query := none
        fragment := none } := by
  unfold inquiryUrl assemble
  rw [plain.splitTail_tidied, plain.endSegments_eq]
  simp

/-- An inquiry goes where the gateway has the intent exactly when its identifier is plain. -/
theorem locates_iff_plain (path : home.path = .segments (names ++ List.replicate more ""))
    (nonempty : id ≠ "") :
    home.Locates (inquiryUrl home port names id) id ↔ Plain id.toList := by
  constructor
  · rintro ⟨-, -, ⟨others, _, written, -, same, means⟩, -⟩
    have ends : endSegments port (["payment_intents", "pa", "v1", "api"] ++ names.reverse)
        id.toList = others ++ ["api", "v1", "pa", "payment_intents"] ++ [written] := by
      simpa using UrlPath.segments.inj same
    exact plain_of_decode (by simpa using nonempty) ends means
  · intro plain
    rw [inquiryUrl_of_plain plain]
    exact ⟨rfl, rfl, ⟨names, more, _, path, by simp, plain.decode_eq⟩, rfl⟩

end Account

/-! ## Different identifiers -/

theorem UrlPath.text_concat (front : List String) (last : String) :
    (UrlPath.segments (front ++ [last])).text = (UrlPath.segments front).text ++ ("/" ++ last) := by
  simp [UrlPath.text, String.join]

/-- Credentials are taken from an address whatever its path, and nothing else is changed. -/
theorem Draft.exists_takeCredentials (url : Url) :
    ∃ authority, ∀ path,
      (takeCredentials { url with path }).2 = { url with authority, path } := by
  rcases url with ⟨scheme, _ | authority, _, query, fragment⟩
  · exact ⟨none, fun path => rfl⟩
  · unfold takeCredentials
    dsimp only
    generalize (if _ = "" then none else _ : Option String) = password
    cases (Percent.decode (Bytes.ofString authority.username)).toString? with
    | none => exact ⟨some authority, fun path => rfl⟩
    | some username =>
        dsimp only
        split
        · exact ⟨some authority, fun path => rfl⟩
        · exact ⟨_, fun path => rfl⟩

/-- Of a path that is long enough, the end has no bearing on what stands before it. -/
theorem Url.authorityText_concat (url : Url) (first second : String) (rest : List String)
    (last : String) :
    ({ url with path := .segments (first :: second :: rest ++ [last]) } : Url).authorityText =
      ({ url with path := .segments (first :: second :: rest) } : Url).authorityText := by
  unfold authorityText
  cases url.authority with
  | some authority => rfl
  | none =>
      by_cases empty : first = ""
      · rw [empty]
        rfl
      · simp [empty]

theorem Url.textWithoutFragment_of_query {url : Url} (noQuery : url.query = none) :
    url.textWithoutFragment = url.scheme ++ ":" ++ url.authorityText ++ url.path.text := by
  unfold textWithoutFragment
  rw [noQuery, String.append_empty]

/-- What is requested under a path that is long enough ends with its last segment. -/
theorem Url.exists_requested_concat (url : Url) (noQuery : url.query = none) (front : List String)
    (long : 2 ≤ front.length) :
    ∃ before : String, ∀ last,
      ({ url with path := .segments (front ++ [last]) } : Url).requested =
        before ++ ("/" ++ last) := by
  obtain ⟨authority, taken⟩ := Draft.exists_takeCredentials url
  rcases front with _ | ⟨first, _ | ⟨second, rest⟩⟩
  · exact absurd long (by decide)
  · exact absurd long (by decide : ¬ 2 ≤ 1)
  · let whole : Url := { url with authority, path := .segments (first :: second :: rest) }
    refine ⟨url.scheme ++ ":" ++ whole.authorityText ++ whole.path.text, fun last => ?_⟩
    let longer : Url := { whole with path := .segments (first :: second :: rest ++ [last]) }
    have start : longer.authorityText = whole.authorityText := authorityText_concat whole ..
    have path : longer.path.text = whole.path.text ++ ("/" ++ last) := UrlPath.text_concat ..
    calc
      ({ url with path := longer.path } : Url).requested = longer.textWithoutFragment := by
        unfold requested
        rw [taken]
      _ = url.scheme ++ ":" ++ longer.authorityText ++ longer.path.text :=
        textWithoutFragment_of_query noQuery
      _ = url.scheme ++ ":" ++ whole.authorityText ++ whole.path.text ++ ("/" ++ last) := by
        rw [start, path, ← String.append_assoc]

namespace Account

open Url

variable {account : Account} {home : Url} {port : Nat} {names : List String} {id other : String}

/-- Inquiries for different plain identifiers go to different places. -/
theorem eq_of_requested_inquiryUrl (plain : Plain id.toList) (otherPlain : Plain other.toList)
    (same : (inquiryUrl home port names other).requested =
      (inquiryUrl home port names id).requested) : other = id := by
  let front := names ++ ["api", "v1", "pa", "payment_intents"]
  obtain ⟨before, requests⟩ :=
    exists_requested_concat { home with query := none, fragment := none } rfl front
      (by simp [front])
  rw [inquiryUrl_of_plain otherPlain, inquiryUrl_of_plain plain, requests, requests,
    String.append_right_inj, String.append_right_inj] at same
  have means := congrArg (fun written => Percent.decode (Bytes.ofString written)) same
  simp only [otherPlain.decode_eq, plain.decode_eq] at means
  exact String.toList_inj.mp (Utf8.encode_injective means)

/-- The request that carries a token in the inquiry for an intent. -/
theorem request_of_lookUpIntent {session : Session Exchange} {turns : List Turn} {turn : Turn}
    {token : String}
    (taken : (account.lookUpIntent id session).2.source.turns = session.source.turns ++ turns)
    (among : turn ∈ turns) (carried : turn.request.carries token = true) :
    turn.request.method = "GET" ∧
      ∃ url, parse? (account.address (Demand.inquiry id).path) = some url ∧
        turn.request.url = url.requested := by
  obtain ⟨met, meets⟩ := account.meets_meet (.inquiry id) session
  have met_eq : account.lookUpIntent id = account.meet (.inquiry id) := rfl
  rw [met_eq, meets.leads.turns_eq] at taken
  obtain rfl := List.append_cancel_left taken
  obtain ⟨held, draft, drafted, same⟩ := meets.exists_draft among carried
  have prepared : Draft.prepare "GET" (account.address (Demand.inquiry id).path)
      (some s!"Bearer {held}") [contentType] "" = .ok draft := drafted
  obtain ⟨url, parsed, request⟩ := Draft.request_of_prepare prepared
  rw [same, request]
  exact ⟨rfl, url, parsed, rfl⟩

/-- Under the address of a gateway that is a web URL without query and fragment, and does
not end with a blank, every inquiry is a GET request for one URL.  It is the one under
which the gateway has the intent exactly when the identifier is plain, and then no other
plain identifier leads there. -/
theorem inquiry_confined_iff (read : parse? account.endpoint = some home)
    (sendable : home.isHttp = true) (noQuery : home.query = none)
    (noFragment : home.fragment = none)
    (solid : ∀ last ∈ (unbroken account.endpoint.toList).getLast?, isBlank last = false)
    (nonempty : id ≠ "") :
    ∃ target, parse? (account.address s!"{intentsPath}/{id}") = some target ∧
      (home.Locates target id ↔ Plain id.toList) ∧
      (∀ session turns turn token,
        (account.lookUpIntent id session).2.source.turns = session.source.turns ++ turns →
        turn ∈ turns → turn.request.carries token = true →
        turn.request.method = "GET" ∧ turn.request.url = target.requested) ∧
      ∀ other otherTarget,
        parse? (account.address s!"{intentsPath}/{other}") = some otherTarget →
        Plain id.toList → Plain other.toList → otherTarget.requested = target.requested →
        other = id := by
  obtain ⟨port, names, more, path, reads⟩ :=
    exists_inquiryUrl read sendable noQuery noFragment solid
  refine ⟨inquiryUrl home port names id, reads id, locates_iff_plain path nonempty, ?_, ?_⟩
  · intro session turns turn token taken among carried
    obtain ⟨method, url, target, requested⟩ := request_of_lookUpIntent taken among carried
    obtain rfl := Option.some.inj (target.symm.trans (reads id))
    exact ⟨method, requested⟩
  · intro other otherTarget otherRead plain otherPlain same
    obtain rfl := Option.some.inj (otherRead.symm.trans (reads other))
    exact eq_of_requested_inquiryUrl plain otherPlain same

end Account

namespace Sample

/-- The URL of the account to try things with. -/
def home : Url :=
  ⟨"http", some ⟨"", "", some (.ipv6 [0, 0, 0, 0, 0, 0, 0, 1]), none⟩, .segments [""], none, none⟩

/-- An identifier that is encoded where it stands, and is still plain. -/
def plainId : String := "int 1é%"

end Sample

namespace Account

open Url

/-- The inquiry for it goes where the gateway has the intent. -/
theorem inquiry_confined_of_plain :
    ∃ target, parse? (Sample.account.address s!"{intentsPath}/{Sample.plainId}") = some target ∧
      Sample.home.Locates target Sample.plainId ∧
      target.requested = "http://[::1]/api/v1/pa/payment_intents/int%201%C3%A9%" ∧
      ∀ session turns turn token,
        (Sample.account.lookUpIntent Sample.plainId session).2.source.turns =
          session.source.turns ++ turns →
        turn ∈ turns → turn.request.carries token = true →
        turn.request.method = "GET" ∧ turn.request.url = target.requested := by
  have read : parse? Sample.account.endpoint = some Sample.home := by decide +kernel
  have ends : (unbroken Sample.account.endpoint.toList).getLast? = some ']' := by decide +kernel
  have solid : ∀ last ∈ (unbroken Sample.account.endpoint.toList).getLast?,
      isBlank last = false := by
    simp [ends, isBlank]
  have plain : Plain Sample.plainId.toList := by
    refine ⟨?_, ?_, by decide +kernel, by decide +kernel⟩
    · simp [Sample.plainId]
    · simp [Sample.plainId, isBlank]
  have nonempty : Sample.plainId ≠ "" := by decide
  obtain ⟨target, reads, located, requests, -⟩ :=
    inquiry_confined_iff read rfl rfl rfl solid nonempty
  have written :
      (parse? (Sample.account.address s!"{intentsPath}/{Sample.plainId}")).map requested =
        some "http://[::1]/api/v1/pa/payment_intents/int%201%C3%A9%" := by
    decide +kernel
  rw [reads] at written
  exact ⟨target, reads, located.mpr plain, Option.some.inj written, requests⟩

/-- Other identifiers lead somewhere else.  With one the token goes to another document of
the gateway, and two different ones are the same to it.  Under an address that ends with a
blank, not even a plain one leads where the intent is. -/
theorem inquiry_strays :
    (Sample.account.lookUpIntent "../customers"
        (Sample.session [Sample.grant "t", .answered 200 Sample.paidIntent])).2.source.turns.map
          (fun turn => (turn.request.carries "t", turn.request.method, turn.request.url)) =
      [(false, "POST", "http://[::1]/api/v1/authentication/login"),
        (true, "GET", "http://[::1]/api/v1/pa/customers")] ∧
    (parse? (Sample.account.address s!"{intentsPath}/a/../int")).map requested =
      (parse? (Sample.account.address s!"{intentsPath}/int")).map requested ∧
    (parse? "http://[::1]/x ").map (·.path) = some (.segments ["x"]) ∧
    (parse? ({ Sample.account with endpoint := "http://[::1]/x " }.address
        s!"{intentsPath}/int")).map (·.path) =
      some (.segments ["x%20", "api", "v1", "pa", "payment_intents", "int"]) := by
  decide +kernel

end Account

end HostedCheckout
