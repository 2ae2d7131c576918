import HostedCheckout.Text.Utf8
import HostedCheckout.Url.Percent

/-!
# Routes

The service knows four paths.  A parameter is one segment that is not empty,
and stands for what it says without its percent signs.
-/

namespace HostedCheckout

/-- A segment of a path that stands for a text, which may not be UTF-8. -/
structure Parameter where
  name : String
  value : Option String
  deriving DecidableEq, Repr

/-- What a path of the service stands for. -/
inductive Route where
  | health
  | payments
  | payment (id : Parameter)
  | notification (order : Parameter)
  deriving DecidableEq, Repr

/-- What is done with a request. -/
inductive Verb where
  | get
  | post
  deriving DecidableEq, Repr

namespace Route

/-- The path of a request target. -/
def path (target : String) : List Char :=
  target.toList.takeWhile fun character => character != '?' && character != '#'

/-- A segment as a parameter. -/
def parameter (name : String) (segment : List Char) : Parameter :=
  ⟨name, (Percent.decode (Utf8.encode segment)).toString?⟩

/-- The route of a request target. -/
def ofTarget? (target : String) : Option Route :=
  match (path target).splitOn '/' with
  | [] :: segments =>
      match segments.map String.ofList, segments.getLast? with
      | ["health"], _ => some .health
      | ["v1", "payments"], _ => some .payments
      | ["v1", "payments", _], some (first :: rest) =>
          some (.payment (parameter "intent_id" (first :: rest)))
      | ["v1", "webhooks", "airwallex", _], some (first :: rest) =>
          some (.notification (parameter "order_id" (first :: rest)))
      | _, _ => none
  | _ => none

/-- What can be done at a route. -/
def verb : Route → Verb
  | health | payment _ => .get
  | payments | notification _ => .post

/-- The methods of a route. -/
def methods (route : Route) : List String :=
  match route.verb with
  | .get => ["GET", "HEAD"]
  | .post => ["POST"]

/-- The header that names the methods of a route. -/
def allowHeader (route : Route) : String × String :=
  ("allow", String.intercalate "," route.methods)

end Route

end HostedCheckout
