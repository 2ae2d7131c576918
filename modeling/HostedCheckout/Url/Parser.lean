import HostedCheckout.Url.Basic

/-!
# Reading URLs

A URL is read from left to right: scheme, authority, path, query, fragment.
Web schemes are forgiving: any number of slashes or backslashes leads to the
authority, and a backslash separates path segments.  Segments `.` and `..` are
resolved.  Blanks around the text and line breaks inside it are ignored.
-/

namespace HostedCheckout.Url

/-- What kind of scheme a URL has: a web scheme with its default port, `file`,
or any other. -/
inductive SchemeKind where
  | web (defaultPort : Nat)
  | file
  | other
  deriving DecidableEq

/-- The kind of a scheme. -/
def schemeKind (scheme : String) : SchemeKind :=
  match scheme with
  | "http" | "ws" => .web 80
  | "https" | "wss" => .web 443
  | "ftp" => .web 21
  | "file" => .file
  | _ => .other

namespace SchemeKind

/-- Schemes whose syntax is forgiving. -/
def isSpecial (kind : SchemeKind) : Bool :=
  kind != .other

/-- The port that is left out. -/
def defaultPort? : SchemeKind → Option Nat
  | .web port => some port
  | _ => none

/-- Whether a character separates path segments. -/
def isSlash (kind : SchemeKind) (character : Char) : Bool :=
  character == '/' || character == '\\' && kind.isSpecial

/-- Whether a character ends an authority. -/
def endsAuthority (kind : SchemeKind) (character : Char) : Bool :=
  kind.isSlash character || character == '?' || character == '#'

end SchemeKind

/-- The text without what surrounds and interrupts it. -/
def cleaned (text : List Char) : List Char :=
  let outside := fun character : Char => character.toNat ≤ 0x20
  let trimmed := ((text.dropWhile outside).reverse.dropWhile outside).reverse
  trimmed.filter fun character => character != '\t' && character != '\n' && character != '\r'

/-- Whether a character may follow the first letter of a scheme. -/
def isSchemeChar (character : Char) : Bool :=
  character.isAlphanum || character == '+' || character == '-' || character == '.'

/-- Split off the scheme, in lowercase. -/
def splitScheme? (text : List Char) : Option (String × List Char) :=
  match text.takeWhile (· ≠ ':'), text.dropWhile (· ≠ ':') with
  | first :: others, _ :: rest =>
      if first.isAlpha && others.all isSchemeChar then
        some (String.ofList ((first :: others).map Char.toLower), rest)
      else none
  | _, _ => none

/-- Split user information off an authority, at its last `@`. -/
def splitUser (authority : List Char) : Option (List Char) × List Char :=
  let reversed := authority.reverse
  match reversed.dropWhile (· ≠ '@') with
  | [] => (none, authority)
  | _ :: user => (some user.reverse, (reversed.takeWhile (· ≠ '@')).reverse)

/-- Split a port off an authority, at the first colon outside brackets. -/
def splitPort : Bool → List Char → List Char × Option (List Char)
  | _, [] => ([], none)
  | inside, character :: rest =>
      if character = ':' ∧ inside = false then ([], some rest)
      else
        let more := splitPort (character == '[' || inside && character != ']') rest
        (character :: more.1, more.2)

/-- Read a port.  No digits are no port; neither is the default one. -/
def port? (kind : SchemeKind) (digits : List Char) : Option (Option Nat) :=
  let value := digits.foldl (fun value digit => value * 10 + (digit.toNat - 48)) 0
  if digits.all Char.isDigit ∧ value ≤ 65535 then
    some (if digits = [] ∨ kind.defaultPort? = some value then none else some value)
  else none

/-- Read the name and password of a user. -/
def readUser (user : List Char) : String × String :=
  let encoded := fun part => String.ofList (Percent.encode Percent.inUserInfo part)
  (encoded (user.takeWhile (· ≠ ':')), encoded ((user.dropWhile (· ≠ ':')).drop 1))

/-- Read an authority.  Its host may be empty only outside the web, where
neither a user nor a port goes with an empty host.  A backslash after a port
begins the path; what follows from there is handed back. -/
def authority? (kind : SchemeKind) (text : List Char) : Option (Authority × List Char) := do
  let (user, hostAndPort) := splitUser text
  let (hostPart, portPart) := splitPort false hostAndPort
  let host ← if kind.isSpecial then Host.ofWeb? hostPart else Host.ofOther? hostPart
  let port ← port? kind ((portPart.getD []).takeWhile (· ≠ '\\'))
  let (username, password) := readUser (user.getD [])
  let named := username != "" || password != "" || user == some []
  if host.present?.isNone && (portPart.isSome || named) then none
  else return (⟨username, password, host.present?, port⟩,
    (portPart.getD []).dropWhile (· ≠ '\\'))

/-- Whether a segment stands for its own directory. -/
def isSingleDot (segment : List Char) : Bool :=
  segment == ['.'] || segment.map Char.toLower == ['%', '2', 'e']

/-- Whether a segment stands for the directory above. -/
def isDoubleDot (segment : List Char) : Bool :=
  match segment.map Char.toLower with
  | ['.', '.'] | ['.', '%', '2', 'e'] | ['%', '2', 'e', '.'] | ['%', '2', 'e', '%', '2', 'e'] =>
      true
  | _ => false

/-- Whether a segment names a disk drive. -/
def isDrive (segment : List Char) : Bool :=
  match segment with
  | [letter, mark] => letter.isAlpha && (mark == ':' || mark == '|')
  | _ => false

/-- A segment as it is kept; a drive at the front of a file path gets a colon. -/
def keptSegment (kind : SchemeKind) (above : List String) (segment : List Char) : String :=
  if kind == .file && above.isEmpty && isDrive segment then
    String.ofList (segment.take 1 ++ [':'])
  else String.ofList (Percent.encode Percent.inPath segment)

/-- The path above another; a drive is not left. -/
def parent (kind : SchemeKind) (above : List String) : List String :=
  match above with
  | [drive] => if kind == .file && isDrive drive.toList then above else []
  | _ => above.drop 1

/-- Resolve the segments of a path; those above are given in reverse. -/
def resolve (kind : SchemeKind) (above : List String) : List (List Char) → List String
  | [] => above.reverse
  | [last] =>
      if isDoubleDot last then ("" :: parent kind above).reverse
      else if isSingleDot last then ("" :: above).reverse
      else (keptSegment kind above last :: above).reverse
  | segment :: next :: rest =>
      if isDoubleDot segment then resolve kind (parent kind above) (next :: rest)
      else if isSingleDot segment then resolve kind above (next :: rest)
      else resolve kind (keptSegment kind above segment :: above) (next :: rest)

/-- Read the segments of a path; the slash before the first may be left out. -/
def readSegments (kind : SchemeKind) (text : List Char) : List String :=
  let afterSlash := match text with
    | first :: rest => if kind.isSlash first then rest else text
    | [] => []
  resolve kind [] (afterSlash.splitOnP kind.isSlash)

/-- Read the path after an authority; only web URLs always have one. -/
def readPath (kind : SchemeKind) (text : List Char) : UrlPath :=
  if text = [] ∧ kind.isSpecial = false then .segments []
  else .segments (readSegments kind text)

/-- A path, query and fragment that have been cut apart. -/
structure Tail where
  path : List Char
  query : Option (List Char)
  fragment : Option (List Char)

/-- Cut a text at a character; the second part is missing if it does not occur. -/
def cut (mark : Char) (text : List Char) : List Char × Option (List Char) :=
  (text.takeWhile (· ≠ mark),
    match text.dropWhile (· ≠ mark) with
    | [] => none
    | _ :: rest => some rest)

/-- Cut path, query and fragment apart. -/
def splitTail (text : List Char) : Tail :=
  let (beforeFragment, fragment) := cut '#' text
  let (path, query) := cut '?' beforeFragment
  ⟨path, query, fragment⟩

/-- Put a URL together from its parts. -/
def assemble (scheme : String) (kind : SchemeKind) (authority : Option Authority) (path : UrlPath)
    (tail : Tail) : Url where
  scheme := scheme
  authority := authority
  path := path
  query := tail.query.map fun text => String.ofList
    (Percent.encode (if kind.isSpecial then Percent.inSpecialQuery else Percent.inQuery) text)
  fragment := tail.fragment.map fun text =>
    String.ofList (Percent.encode Percent.inFragment text)

/-- Read what follows the slashes before an authority. -/
def afterSlashes? (scheme : String) (kind : SchemeKind) (text : List Char) : Option Url := do
  let (authority, left) ←
    authority? kind (text.takeWhile fun character => !kind.endsAuthority character)
  let tail := splitTail (left ++ text.dropWhile fun character => !kind.endsAuthority character)
  return assemble scheme kind authority (readPath kind tail.path) tail

/-- The host of a file; the local host is no host. -/
def fileHost? (text : List Char) : Option (Option Host) :=
  if text = [] then some none
  else (Host.ofWeb? text).map fun host => if host = .name "localhost" then none else some host

/-- The segments of a file path, without empty ones at the front. -/
def readFilePath (text : List Char) : List String :=
  match (readSegments .file text).dropWhile (· == "") with
  | [] => [""]
  | names => names

/-- Read a file URL after its colon.  A drive in the place of the host begins
the path. -/
def file? (text : List Char) : Option Url :=
  let slash := SchemeKind.file.isSlash
  let located := fun (host : Option Host) (rest : List Char) =>
    let tail := splitTail rest
    let names := readFilePath tail.path
    let kept := if names.head?.any (fun name => isDrive name.toList) then none else host
    assemble "file" .file (some ⟨"", "", kept, none⟩) (.segments names) tail
  match text with
  | first :: second :: rest =>
      if slash first && slash second then
        let written := rest.takeWhile fun character => !SchemeKind.file.endsAuthority character
        if isDrive written then some (located none rest)
        else (fileHost? written).map fun host =>
          located host (rest.dropWhile fun character => !SchemeKind.file.endsAuthority character)
      else some (located none text)
  | _ => some (located none text)

/-- Read a URL outside the web after its colon. -/
def other? (scheme : String) (text : List Char) : Option Url :=
  match text with
  | '/' :: '/' :: rest => afterSlashes? scheme .other rest
  | '/' :: _ =>
      let tail := splitTail text
      some (assemble scheme .other none (readPath .other tail.path) tail)
  | _ =>
      let tail := splitTail text
      some (assemble scheme .other none
        (.whole (String.ofList (Percent.encode Percent.isControl tail.path))) tail)

/-- Read a URL. -/
def parse? (text : String) : Option Url := do
  let (scheme, rest) ← splitScheme? (cleaned text.toList)
  match schemeKind scheme with
  | .web port => afterSlashes? scheme (.web port) (rest.dropWhile (SchemeKind.web port).isSlash)
  | .file => file? rest
  | .other => other? scheme rest

end HostedCheckout.Url
