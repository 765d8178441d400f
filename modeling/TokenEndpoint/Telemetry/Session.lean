import TokenEndpoint.Telemetry.Span
/-!
Telemetry sessions: records, spans and one set of sinks under any sequence of commands. A command
that fails leaves what it did before it failed; a block around a span ends the span, however the
block ends. A sink has a state of its own, so it may react to the next record in another way than to
the last one: this too is a command.
-/

namespace TokenEndpoint

/-- A span and the place of its record. -/
structure OpenSpan where
  record : Nat
  span : Span

structure TelemetrySession where
  telemetry : Telemetry := {}
  records : List Record := []
  spans : List OpenSpan := []

namespace TelemetrySession

inductive Command where
  | newRecord (record : Record)
  | setTarget (record : Nat) (url : Option String)
  | setResponse (record : Nat) (response : Response)
  | addSink (sink : Sink)
  | enable (on : Bool)
  /-- From now on the sinks react as is given for their places, wherever they are registered. -/
  | react (reaction : Nat → Record → Reaction)
  | openSpan (record : Nat) (correlationId clientId : Option String)
  | finalize (span : Nat)
  /-- Takes the commands in order up to the first that fails, or fails of itself after them; then
  ends the span. -/
  | within (span : Nat) (body : List Command) (failure : Option Failure)

/-- Where a command leaves the session, what it did, and how it failed. -/
structure Outcome where
  session : TelemetrySession
  trace : Trace := []
  failure : Option Failure := none

def setRecord (s : TelemetrySession) (i : Nat) (record : Record) : TelemetrySession :=
  { s with records := s.records.set i record }

/-- The same sinks, of the telemetry and of every span, each of which reacts as is given for its
place. -/
def withReactions (s : TelemetrySession) (reaction : Nat → Record → Reaction) : TelemetrySession :=
  { s with
    telemetry := s.telemetry.withReactions reaction
    spans := s.spans.map fun opened => { opened with span := opened.span.withReactions reaction } }

/-- Ends the span at a place. -/
def finalize (s : TelemetrySession) (j : Nat) : Outcome :=
  match s.spans[j]? with
  | none => { session := s }
  | some opened =>
    match s.records[opened.record]? with
    | none => { session := s }
    | some record =>
      let (span, record, trace) := opened.span.finalize record
      { session := { s with
          records := s.records.set opened.record record
          spans := s.spans.set j { opened with span } }
        trace }

def setTarget (s : TelemetrySession) (i : Nat) (url : Option String) : Outcome :=
  match s.records[i]? with
  | none => { session := s }
  | some record =>
    match record.setTarget url with
    | .ok changed => { session := s.setRecord i changed }
    | .error fault => { session := s, failure := some (.target fault) }

def setResponse (s : TelemetrySession) (i : Nat) (response : Response) : Outcome :=
  match s.records[i]? with
  | none => { session := s }
  | some record =>
    let (changed, entries) := record.setResponse response
    { session := s.setRecord i changed, trace := Trace.ofEntries entries }

def openSpan (s : TelemetrySession) (i : Nat) (correlationId clientId : Option String) : Outcome :=
  match s.records[i]? with
  | none => { session := s }
  | some record =>
    let (named, span, trace) := s.telemetry.openSpan record correlationId clientId
    { session := { s.setRecord i named with spans := s.spans ++ [{ record := i, span }] }, trace }

mutual

def step (s : TelemetrySession) : Command → Outcome
  | .newRecord record => { session := { s with records := s.records ++ [record] } }
  | .setTarget i url => s.setTarget i url
  | .setResponse i response => s.setResponse i response
  | .addSink sink => { session := { s with telemetry := s.telemetry.addSink sink } }
  | .enable on => { session := { s with telemetry := { s.telemetry with enabled := on } } }
  | .react reaction => { session := s.withReactions reaction }
  | .openSpan i correlationId clientId => s.openSpan i correlationId clientId
  | .finalize j => s.finalize j
  | .within j body failure =>
    let inside := s.runBlock body
    let ended := inside.session.finalize j
    { session := ended.session
      trace := inside.trace ++ ended.trace
      failure := inside.failure.orElse fun _ => failure }

/-- Takes commands in order up to the first that fails. -/
def runBlock (s : TelemetrySession) : List Command → Outcome
  | [] => { session := s }
  | c :: rest =>
    let first := s.step c
    match first.failure with
    | some failure => { first with failure := some failure }
    | none =>
      let later := runBlock first.session rest
      { later with trace := first.trace ++ later.trace }

end

/-- Takes all commands in order, whichever fail. -/
def run (s : TelemetrySession) (commands : List Command) : TelemetrySession × Trace :=
  commands.foldl (fun (s, trace) c => let o := s.step c; (o.session, trace ++ o.trace)) (s, [])

end TelemetrySession

end TokenEndpoint
