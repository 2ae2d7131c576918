import HostedCheckout.Url.Host

/-!
# URLs

A URL is a scheme, an authority, a path, and perhaps a query and a fragment.
Every component is held as it is written, with its percent signs.
-/

namespace HostedCheckout

/-- Who is addressed: user information, host and port.  The default port of the
scheme is left out. -/
structure Authority where
  username : String
  password : String
  host : Option Host
  port : Option Nat
  deriving DecidableEq, Repr

/-- A path: segments after slashes, or a text without structure. -/
inductive UrlPath where
  | segments (names : List String)
  | whole (text : String)
  deriving DecidableEq, Repr

/-- A URL. -/
structure Url where
  scheme : String
  authority : Option Authority
  path : UrlPath
  query : Option String
  fragment : Option String
  deriving DecidableEq, Repr

namespace Authority

/-- Whether there is user information. -/
def hasUser (authority : Authority) : Bool :=
  authority.username != "" || authority.password != ""

/-- User information as it is written. -/
def userText (authority : Authority) : String :=
  if authority.hasUser then
    authority.username ++ (if authority.password = "" then "" else ":" ++ authority.password) ++ "@"
  else ""

/-- Host and port as they are written. -/
def hostText (authority : Authority) : String :=
  (authority.host.map Host.text).getD ""
    ++ (match authority.port with | some port => s!":{port}" | none => "")

/-- An authority as it is written. -/
def text (authority : Authority) : String :=
  authority.userText ++ authority.hostText

end Authority

namespace UrlPath

/-- A path as it is written. -/
def text : UrlPath → String
  | .segments names => String.join (names.map fun name => "/" ++ name)
  | .whole text => text

end UrlPath

namespace Url

/-- The host, unless it is empty. -/
def host (url : Url) : Option Host :=
  url.authority.bind (·.host)

/-- The port, unless it is the default one. -/
def port (url : Url) : Option Nat :=
  url.authority.bind (·.port)

/-- What stands between scheme and path.  A path that begins with two slashes
must not look like an authority. -/
def authorityText (url : Url) : String :=
  match url.authority, url.path with
  | some authority, _ => "//" ++ authority.text
  | none, .segments ("" :: _ :: _) => "/."
  | none, _ => ""

/-- A URL as it is written, without its fragment. -/
def textWithoutFragment (url : Url) : String :=
  url.scheme ++ ":" ++ url.authorityText ++ url.path.text
    ++ (match url.query with | some query => "?" ++ query | none => "")

/-- A URL as it is written. -/
def text (url : Url) : String :=
  url.textWithoutFragment
    ++ (match url.fragment with | some fragment => "#" ++ fragment | none => "")

/-- Whether requests of this scheme can be sent. -/
def isHttp (url : Url) : Bool :=
  url.scheme == "http" || url.scheme == "https"

end Url

end HostedCheckout
