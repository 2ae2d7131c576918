import HostedCheckout.Merchant.Operations
import HostedCheckout.Payment.Document
import HostedCheckout.Service.MediaType
import HostedCheckout.Service.Response
import HostedCheckout.Service.Route

/-!
# Answering requests

Payments are started and asked for, and notifications are taken in.  Any origin
may use the service: every response says so, and every request for the options
of a path is answered at once.
-/

namespace HostedCheckout

open Json

/-- A request to the service. -/
structure Incoming where
  method : String
  target : String
  headers : List (String × String)
  body : Bytes
  deriving DecidableEq, Repr

namespace Service

/-- Put headers in alphabetical order; there are no two of one name. -/
def inOrder (headers : List (String × String)) : List (String × String) :=
  headers.mergeSort fun first second => first.1 ≤ second.1

/-- What every response tells browsers. -/
def openHeaders : List (String × String) :=
  [("access-control-allow-origin", "*"),
    ("vary", "origin, access-control-request-method, access-control-request-headers")]

/-- What is told about requests from other origins. -/
def optionHeaders : List (String × String) :=
  [("access-control-allow-headers", "content-type,user-agent"),
    ("access-control-allow-methods", "GET,POST,OPTIONS")]

/-- A response as it is sent. -/
def finish (response : Response) : Response :=
  { response with headers := inOrder (openHeaders ++ response.headers) }

/-- The answer to a request for the options of a path. -/
def options (route : Option Route) : Response :=
  match route with
  | none => .empty 200 optionHeaders
  | some route => (Response.empty 200 (route.allowHeader :: optionHeaders)).withLength

/-- The text of a parameter, or the answer to one that is not a text. -/
def readParameter (parameter : Parameter) : Except Response String :=
  match parameter.value with
  | some text => .ok text
  | none =>
      .error (.text 400 ("Invalid URL: Invalid UTF-8 in \x60" ++ parameter.name ++ "\x60"))

/-- The content type of a request. -/
def contentType? (incoming : Incoming) : Option String :=
  (incoming.headers.find? fun header => header.1.map Char.toLower == "content-type").map (·.2)

/-- The wording for a body that is not a payment request. -/
def bodyFault (error : Json.Error) : String :=
  (if error.fault.isData then "Failed to deserialize the JSON body into the target type: "
    else "Failed to parse the request body as JSON: ") ++ error.messageWithPath

/-- The payment request in a body. -/
def readPayment (incoming : Incoming) : Except ServiceError PayRequest :=
  if (contentType? incoming).any MediaType.isJson then
    match PayRequest.kind.readText incoming.body with
    | .ok request => .ok request
    | .error error => .error (.badRequest (bodyFault error))
  else .error (.badRequest "Expected request with \x60Content-Type: application/json\x60")

/-- Carry out what a route stands for. -/
def serve (merchant : Merchant) (incoming : Incoming) :
    Route → Operation Exchange ServiceError Response
  | .health => return .document 200 (.object [("status", .string "ok")])
  | .payments => do
      let request ← Session.conclude (readPayment incoming)
      return .document 200 (← (merchant.pay request).mapError .ofPayment).toValue
  | .payment parameter =>
      match readParameter parameter with
      | .error response => return response
      | .ok id => return .document 200 (← (merchant.query id).mapError .ofPayment).toValue
  | .notification parameter =>
      match readParameter parameter with
      | .error response => return response
      | .ok order => do
          let report ← (merchant.notify incoming.body order).mapError .ofPayment
          return .document 200 report.toValue

/-- Carry out what a route stands for, and answer failures too. -/
def answer (merchant : Merchant) (incoming : Incoming) (route : Route) :
    Operation Exchange Empty Response := fun session =>
  let (outcome, after) := serve merchant incoming route session
  (match outcome with
    | .ok response => .ok response
    | .error (.failed error) => .ok error.response
    | .error .clockOutOfRange => .error .clockOutOfRange, after)

/-- Answer a request. -/
def handle (merchant : Merchant) (incoming : Incoming) : Operation Exchange Empty Response := do
  let route := Route.ofTarget? incoming.target
  if incoming.method = "OPTIONS" then return finish (options route)
  else match route with
    | none => return finish (.empty 404 [])
    | some route =>
        if incoming.method ∈ route.methods then
          let response := (← answer merchant incoming route).withLength
          return finish (if incoming.method = "HEAD" then { response with body := "" }
            else response)
        else return finish (Response.empty 405 [route.allowHeader]).withLength

end Service

end HostedCheckout
