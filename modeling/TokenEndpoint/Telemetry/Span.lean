import TokenEndpoint.Trace
/-!
Spans. A span lies around one exchange; at its end, once, its record is finished and handed to every
sink that was registered when the span was opened. A sink that fails costs a warning and nothing else.
-/

namespace TokenEndpoint

/-- What a sink does with a record: what it logs, and how it fails if it does. A sink only looks at the
record and leaves it as it is. Its failure is an ordinary one: an interrupt or an exit is not held back by
the span and has no part in the model. -/
structure Reaction where
  entries : List LogEntry := []
  failure : Option Failure := none

structure Sink where
  number : Nat
  react : Record → Reaction := fun _ => {}

/-- The registered sinks, and whether records go to them. -/
structure Telemetry where
  sinks : List Sink := []
  enabled : Bool := true

/-- The sinks and the switch as they were when the span was opened. -/
structure Span where
  sinks : List Sink
  enabled : Bool
  finalized : Bool := false

namespace Sink

def warning (failure : Failure) (record : Record) : LogEntry :=
  ⟨.telemetry, .warning,
    LogEntry.mark ("Telemetry sink failed: " ++ failure.label) record.correlationId⟩

/-- The delivery of a record, what the sink logs, and the warning if it fails. -/
def receive (sink : Sink) (record : Record) : Trace :=
  let reaction := sink.react record
  .delivered sink.number record :: Trace.ofEntries
    (reaction.entries ++ (reaction.failure.map fun failure => warning failure record).toList)

/-- What the receiving of a record leaves in the logs. -/
@[simp] theorem entries_receive (sink : Sink) (record : Record) :
    (sink.receive record).entries =
      (sink.react record).entries ++
        ((sink.react record).failure.map fun failure => warning failure record).toList := by
  simp [receive]

@[simp] theorem deliveries_receive (sink : Sink) (record : Record) :
    (sink.receive record).deliveries = [(sink.number, record)] := by
  simp [receive]

@[simp] theorem requests_receive (sink : Sink) (record : Record) :
    (sink.receive record).requests = [] := by
  simp [receive]

@[simp] theorem opened_receive (sink : Sink) (record : Record) :
    (sink.receive record).opened = [] := by
  simp [receive]

@[simp] theorem ended_receive (sink : Sink) (record : Record) :
    (sink.receive record).ended = [] := by
  simp [receive]

@[simp] theorem sleeps_receive (sink : Sink) (record : Record) :
    (sink.receive record).sleeps = [] := by
  simp [receive]

@[simp] theorem samples_receive (sink : Sink) (record : Record) :
    (sink.receive record).samples = 0 := by
  simp [receive]

/-- New reactions leave the sinks in their order. -/
theorem numbers_mapIdx (sinks : List Sink) (reaction : Nat → Record → Reaction) :
    (sinks.mapIdx fun i sink => { sink with react := reaction i }).map (·.number) =
      sinks.map (·.number) := by
  apply List.ext_getElem?
  intro i
  rw [List.getElem?_map, List.getElem?_mapIdx, List.getElem?_map]
  cases sinks[i]? <;> rfl

end Sink

namespace Telemetry

def addSink (t : Telemetry) (sink : Sink) : Telemetry :=
  { t with sinks := t.sinks ++ [sink] }

/-- The same sinks, each of which reacts as is given for its place. -/
def withReactions (t : Telemetry) (reaction : Nat → Record → Reaction) : Telemetry :=
  { t with sinks := t.sinks.mapIdx fun i sink => { sink with react := reaction i } }

/-- A span, and its record with the exchange and the client named in it. -/
def openSpan (t : Telemetry) (record : Record) (correlationId clientId : Option String) :
    Record × Span × Trace :=
  let record := record.identify correlationId clientId
  (record, { sinks := t.sinks, enabled := t.enabled }, [.opened record])

end Telemetry

namespace Span

/-- The same span, whose sinks react as is given for their places. -/
def withReactions (s : Span) (reaction : Nat → Record → Reaction) : Span :=
  { s with sinks := s.sinks.mapIdx fun i sink => { sink with react := reaction i } }

/-- Hands a record to every sink in turn, if the span is switched on. -/
def deliver (s : Span) (record : Record) : Trace :=
  if s.enabled then s.sinks.flatMap fun sink => sink.receive record else []

/-- Ends the span with its record. A span that has ended does nothing. -/
def finalize (s : Span) (record : Record) : Span × Record × Trace :=
  if s.finalized then (s, record, [])
  else
    let record := record.finish
    ({ s with finalized := true }, record, .ended record :: s.deliver record)

/-- **A record goes to each sink once, in the order of the sinks**, or to none. -/
@[simp] theorem deliveries_deliver (s : Span) (record : Record) :
    (s.deliver record).deliveries =
      if s.enabled then s.sinks.map fun sink => (sink.number, record) else [] := by
  unfold deliver
  split
  · simp only [Trace.deliveries_flatMap, Sink.deliveries_receive, List.map_eq_flatMap]
  · rfl

theorem entries_deliver (s : Span) (record : Record) :
    (s.deliver record).entries =
      if s.enabled then s.sinks.flatMap fun sink => (sink.receive record).entries else [] := by
  unfold deliver
  split
  · exact Trace.entries_flatMap _ _
  · rfl

@[simp] theorem requests_deliver (s : Span) (record : Record) : (s.deliver record).requests = [] := by
  unfold deliver
  split <;> simp

@[simp] theorem opened_deliver (s : Span) (record : Record) : (s.deliver record).opened = [] := by
  unfold deliver
  split <;> simp

@[simp] theorem ended_deliver (s : Span) (record : Record) : (s.deliver record).ended = [] := by
  unfold deliver
  split <;> simp

@[simp] theorem sleeps_deliver (s : Span) (record : Record) : (s.deliver record).sleeps = [] := by
  unfold deliver
  split <;> simp

@[simp] theorem samples_deliver (s : Span) (record : Record) : (s.deliver record).samples = 0 := by
  unfold deliver
  split
  · exact Trace.samples_flatMap _ _ fun sink _ => sink.samples_receive record
  · rfl

end Span

end TokenEndpoint
