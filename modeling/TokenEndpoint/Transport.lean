import TokenEndpoint.Decimal.Number
import TokenEndpoint.Failure
import TokenEndpoint.Log
import TokenEndpoint.Request
import TokenEndpoint.Response
/-!
Transports. A transport answers a request with a response or a failure. The two adapters each make
one call of an HTTP client for a request and do not try again; an error of the client's own family
becomes a transport fault, any other passes through.
-/

namespace TokenEndpoint

/-- A request body as an HTTP client takes it. -/
inductive Body where
  | text (t : String)
  | octets (bytes : List UInt8)
  deriving DecidableEq, Repr

def Body.toOctets : Body → List UInt8
  | .text t => Utf8.encode t.toList
  | .octets bytes => bytes

/-- One call of an HTTP client. -/
structure ClientCall where
  method : String
  url : String
  headers : Fields String String
  body : Body
  /-- In seconds; without one the client waits. -/
  timeout : Option Decimal.Number
  /-- Whether to check the endpoint's certificate, where the call itself says so. -/
  verify : Option Bool := none

/-- What the sending of a request comes to. -/
structure Reply where
  result : Except Failure Response
  entries : List LogEntry := []
  calls : List ClientCall := []

namespace Reply

/-- The reply of a transport that its user has not defined. -/
def undefined : Reply := { result := .error .unimplemented }

end Reply

/-- How an HTTP client is asked to work. -/
structure ClientOptions where
  timeout : Option Decimal.Number := some (.ofFloat 30.0)
  verify : Bool := true

namespace Adapter

def call (a : Adapter) (options : ClientOptions) (request : Request) : ClientCall :=
  let common : ClientCall :=
    { method := Request.method
      url := request.url
      headers := Fields.ofPairs request.headers
      body := .text request.body
      timeout := options.timeout }
  match a with
  | .textual => { common with verify := some options.verify }
  | .binary => { common with body := .octets (Utf8.encode request.body.toList) }

/-- A failure as the adapter passes it on, and what it logs. -/
def passOn (a : Adapter) (failure : Failure) : Failure × List LogEntry :=
  match failure with
  | .foreign (some family) label text =>
    if family = a then
      (.transport (.network label text),
        [⟨.transport, .warning, "Network error calling token endpoint: " ++ label⟩])
    else (failure, [])
  | _ => (failure, [])

def send (a : Adapter) (options : ClientOptions) (client : ClientCall → Except Failure Response)
    (request : Request) : Reply :=
  let call := a.call options request
  match client call with
  | .ok response => { result := .ok response, calls := [call] }
  | .error failure =>
    let (failure, entries) := a.passOn failure
    { result := .error failure, entries, calls := [call] }

end Adapter

end TokenEndpoint
