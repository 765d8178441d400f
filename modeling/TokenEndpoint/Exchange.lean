import TokenEndpoint.Refusal
import TokenEndpoint.Result
import TokenEndpoint.Telemetry.Span
import TokenEndpoint.Transport
/-!
One exchange: the request is built and sent, the response classified, and the result assembled at one
reading of the clock. A telemetry span lies around it and ends on every path. Nothing is tried again.
-/

namespace TokenEndpoint

/-- What runs exchanges: settings, and the telemetry that their records go to. -/
structure Exchanger where
  settings : Settings := {}
  telemetry : Telemetry := {}

/-- What an exchange is asked for. -/
structure Call where
  authority : Authority
  grant : Grant
  headers : Option RequestHeaders := none
  credential : Option Credential := none
  clientId : Option String := none

/-- The world outside, as one exchange meets it. -/
structure Surroundings where
  platform : String
  transport : Request → Reply
  /-- What the clock shows if it is read, in seconds since the epoch. -/
  clock : Decimal.Number
  /-- How deep the JSON texts of the response may be nested. -/
  room : Json.Room := {}

namespace Exchanger

/-! ## 1. Creation -/

/-- An exchanger with valid settings. Telemetry that is not given is as the settings say. -/
def create (settings : Settings) (telemetry : Option Telemetry) : Except Failure Exchanger :=
  settings.validate.map fun _ =>
    { settings, telemetry := telemetry.getD { enabled := settings.telemetryEnabled } }

/-- What is created from settings that are valid, and from no others. -/
theorem create_eq_ok_iff {settings : Settings} {telemetry : Option Telemetry} {e : Exchanger} :
    create settings telemetry = .ok e ↔
      settings.validate = .ok () ∧
        e = { settings, telemetry := telemetry.getD { enabled := settings.telemetryEnabled } } := by
  rw [create, map_eq_ok]
  constructor
  · rintro ⟨⟨⟩, hvalid, rfl⟩
    exact ⟨hvalid, rfl⟩
  · rintro ⟨hvalid, rfl⟩
    exact ⟨(), hvalid, rfl⟩

/-- The options of the HTTP client that the settings ask for. -/
def clientOptions (e : Exchanger) : ClientOptions :=
  { timeout := some (.ofFloat e.settings.httpTimeoutSeconds), verify := e.settings.verifySsl }

def addSink (e : Exchanger) (sink : Sink) : Exchanger :=
  { e with telemetry := e.telemetry.addSink sink }

def withReactions (e : Exchanger) (reaction : Nat → Record → Reaction) : Exchanger :=
  { e with telemetry := e.telemetry.withReactions reaction }

/-- Switches the delivery of records on or off, for the spans opened from then on. -/
def enable (e : Exchanger) (on : Bool) : Exchanger :=
  { e with telemetry := { e.telemetry with enabled := on } }

/-- The request of a call, without sending it. Headers that are not given are left out. -/
def buildRequest (platform : String) (c : Call) : Except Failure Request :=
  TokenEndpoint.buildRequest platform c.authority c.grant c.headers c.credential

/-! ## 2. The record at the start -/

/-- The record of an exchange before its span is opened. A URL without a path is logged and left. -/
def startRecord (e : Exchanger) (authority : Authority) (correlationId : String) :
    Record × List LogEntry :=
  let record : Record := { method := some Request.method }
  match record.setTarget authority.tokenEndpointUrl with
  | .ok record => (record, [])
  | .error fault =>
    (record, [⟨.exchange, .warning,
      LogEntry.mark
        ("Setting URL telemetry fields failed: " ++
          (Failure.target fault).details e.settings.logPii)
        (some correlationId)⟩])

/-! ## 3. Inside the span -/

/-- How the inside of a span went: its outcome, the record as it left it, and what it did. -/
structure Course where
  outcome : Except Failure Result
  record : Record
  trace : Trace := []

def sendingEntry (record : Record) (correlationId : String) : LogEntry :=
  ⟨.exchange, .debug,
    LogEntry.mark ("Sending token request to " ++ record.path.getD "None") (some correlationId)⟩

def refusedEntry (refusal : Refusal) (correlationId : String) : LogEntry :=
  ⟨.exchange, .warning,
    LogEntry.mark
      ("Token request failed: " ++ refusal.kind.label ++ " (error=" ++ refusal.code ++ ", status=" ++
        toString refusal.status ++ ")")
      (some correlationId)⟩

def succeededEntry (correlationId : String) : LogEntry :=
  ⟨.exchange, .info, LogEntry.mark "Token exchange succeeded" (some correlationId)⟩

/-- The clock's reading in whole seconds, toward zero. -/
def capturedAt (reading : Decimal.Number) : Except Failure Int :=
  match reading.truncate? with
  | some seconds => .ok seconds
  | none => .error (.clock reading)

/-- A success: the clock is read once the payload has been decoded. -/
def succeed (w : Surroundings) (authority : Authority) (correlationId : String) (record : Record)
    (response : Response) : Course :=
  match Payload.ofResponse w.room.body response with
  | .error failure => { outcome := .error failure, record }
  | .ok payload =>
    match capturedAt w.clock >>= fun now => Result.assemble w.room payload now authority with
    | .error failure => { outcome := .error failure, record, trace := [.sampled] }
    | .ok result =>
      { outcome := .ok result, record, trace := [.sampled, .logged (succeededEntry correlationId)] }

/-- Any other response: its refusal, named in the record. A body that is nested too deep has none. -/
def refuse (room : Nat) (correlationId : String) (record : Record) (response : Response) : Course :=
  match ErrorDetails.ofResponse room response with
  | .error failure => { outcome := .error failure, record }
  | .ok details =>
    let refusal := details.classify
    { outcome := .error (.refused refusal)
      record := { record with errorCode := some refusal.code }
      trace := Trace.ofEntries
        (ErrorDetails.notes room response ++ [refusedEntry refusal correlationId]) }

def answer (w : Surroundings) (authority : Authority) (correlationId : String) (record : Record)
    (response : Response) : Course :=
  let (record, entries) := record.setResponse response
  let course :=
    if response.status = Response.success then succeed w authority correlationId record response
    else refuse w.room.body correlationId record response
  { course with trace := Trace.ofEntries entries ++ course.trace }

/-- What the sending of a request does: a note, the request, and what the transport logs. -/
def sending (correlationId : String) (record : Record) (request : Request) (reply : Reply) : Trace :=
  .logged (sendingEntry record correlationId) :: .sent request :: Trace.ofEntries reply.entries

def inside (w : Surroundings) (c : Call) (correlationId : String) (record : Record) : Course :=
  match buildRequest w.platform c with
  | .error failure => { outcome := .error failure, record }
  | .ok request =>
    let reply := w.transport request
    let sent := sending correlationId record request reply
    match reply.result with
    | .error failure => { outcome := .error failure, record, trace := sent }
    | .ok response =>
      let course := answer w c.authority correlationId record response
      { course with trace := sent ++ course.trace }

/-! ## 4. The exchange -/

/-- The outcome of an exchange, the supply of ids after it, and what it did. -/
structure Outcome where
  outcome : Except Failure Result
  ids : IdSupply
  trace : Trace

/-- The given headers, else fresh ones with the exchanger's settings. -/
def headersOf (e : Exchanger) (ids : IdSupply) (given : Option RequestHeaders) :
    RequestHeaders × IdSupply :=
  match given with
  | some headers => (headers, ids)
  | none => RequestHeaders.create ids none [] e.settings

def exchange (e : Exchanger) (w : Surroundings) (ids : IdSupply) (c : Call) : Outcome :=
  let (headers, ids) := e.headersOf ids c.headers
  let (record, entries) := e.startRecord c.authority headers.correlationId
  let (record, span, opening) := e.telemetry.openSpan record (some headers.correlationId) c.clientId
  let course := inside w { c with headers := some headers } headers.correlationId record
  let (_, _, ending) := span.finalize course.record
  { outcome := course.outcome, ids
    trace := Trace.ofEntries entries ++ opening ++ course.trace ++ ending }

end Exchanger

end TokenEndpoint
