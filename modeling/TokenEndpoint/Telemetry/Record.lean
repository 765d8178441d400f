import TokenEndpoint.RequestHeaders
import TokenEndpoint.Response
import TokenEndpoint.Telemetry.ClientTelemetry
/-!
Diagnostic records: what is kept about one round trip. A record holds the path of the request, the
names of its query parameters, the status and a few headers of the response, and the error code;
nothing of the request's body and of the tokens.
-/

namespace TokenEndpoint

structure Record where
  eventName : String := "http_event"
  method : Option String := none
  /-- Scheme, network location and path of the request, without the segments that look like a
  user. -/
  path : Option String := none
  queryParameters : Option String := none
  status : Option Int := none
  userAgent : Option String := none
  requestId : Option String := none
  clientTelemetry : Option ClientTelemetry := none
  errorCode : Option Text := none
  correlationId : Option String := none
  clientId : Option String := none
  finalized : Bool := false
  /-- Whether the duration has been taken. -/
  timed : Bool := false
  deriving DecidableEq, Repr

namespace Record

/-! ## 1. The request -/

/-- What stands in a path for a segment that looks like a user. -/
def userPlaceholder : String := "<user>"

def scrubSegment (segment : String) : String :=
  if segment.toList.contains '@' then userPlaceholder else segment

/-- Scheme and network location, then the segments of the path. -/
def scrubbedPath (url : Url) : String :=
  String.intercalate "/" ((url.scheme ++ "://" ++ url.netloc) :: url.segments.map scrubSegment)

/-- The names in a query, joined as the query was; none if it has no pieces. -/
def queryNames (query : String) : Option String :=
  match (Text.splitOn '&' query.toList).filter (fun p => !p.isEmpty) with
  | [] => none
  | pieces => some (String.ofList (Text.joinWith ['&'] (pieces.map fun p => (Text.cut '=' p).1)))

/-- The parts of a URL that has a scheme and a network location. -/
def readTarget (url : Option String) : Except TargetFault Url :=
  let text := url.getD ""
  if text.isEmpty then .error .noUrl
  else match Url.parse text with
    | .error fault => .error (.url fault)
    | .ok parsed =>
      if parsed.scheme.isEmpty || parsed.netloc.isEmpty then .error (.noPath text) else .ok parsed

/-- Keeps the path, and the names in the query unless that is empty. -/
def setTarget (r : Record) (url : Option String) : Except TargetFault Record :=
  (readTarget url).map fun parsed =>
    { r with
      path := some (scrubbedPath parsed)
      queryParameters :=
        if parsed.query.isEmpty then r.queryParameters else queryNames parsed.query }

/-! ## 2. The response -/

/-- A header of the response that is not blank. -/
def givenHeader? (response : Response) (name : String) : Option String :=
  (response.header? name).bind fun text => if Text.isBlankText text then none else some text

/-- Keeps the status, and each header that says something. -/
def setResponse (r : Record) (response : Response) : Record × List LogEntry :=
  let (found, entries) := ClientTelemetry.read (response.header? HeaderName.clientTelemetry)
  ({ r with
     status := some response.status
     userAgent := (givenHeader? response HeaderName.userAgent).orElse fun _ => r.userAgent
     requestId := (givenHeader? response HeaderName.requestId).orElse fun _ => r.requestId
     clientTelemetry := found.orElse fun _ => r.clientTelemetry }, entries)

/-! ## 3. The end -/

/-- The record with its duration taken. -/
def finish (r : Record) : Record :=
  { r with finalized := true, timed := true }

/-- A text that is there and not empty takes the place of the old one. -/
def renew (old new : Option String) : Option String :=
  match new with
  | some text => if text.isEmpty then old else some text
  | none => old

/-- Names the exchange and the client; what is not given or empty stays as it was. -/
def identify (r : Record) (correlationId clientId : Option String) : Record :=
  { r with
    correlationId := renew r.correlationId correlationId
    clientId := renew r.clientId clientId }

end Record

end TokenEndpoint
