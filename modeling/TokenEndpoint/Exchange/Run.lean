import TokenEndpoint.Exchange
/-!
Runs: any sequence of exchanges with one exchanger, among them commands to its telemetry. What passes
from one exchange to the next is the exchanger's telemetry, the supply of ids, and how often the
clock has been read. A sink has a state of its own, so it may react to the next record in another way
than to the last one: this too is a command.
-/

namespace TokenEndpoint

structure Run where
  exchanger : Exchanger
  ids : IdSupply
  /-- How often the clock has been read. -/
  samples : Nat := 0

/-- What does not change in a run: the platform, what the clock shows at each reading, and how deep the
JSON texts of responses may be nested. -/
structure RunSurroundings where
  platform : String
  clock : Nat → Decimal.Number
  room : Json.Room := {}

namespace Run

inductive Command where
  | exchange (call : Call) (transport : Request → Reply)
  | addSink (sink : Sink)
  | enable (on : Bool)
  | react (reaction : Nat → Record → Reaction)

/-- What the next exchange of a run meets. -/
def surroundings (r : Run) (w : RunSurroundings) (transport : Request → Reply) : Surroundings :=
  { platform := w.platform, transport, clock := w.clock r.samples, room := w.room }

/-- The outcome, if the command was an exchange, and what it did. -/
structure Report where
  outcome : Option (Except Failure Result) := none
  trace : Trace := []

def step (w : RunSurroundings) (r : Run) : Command → Run × Report
  | .exchange call transport =>
    let done := r.exchanger.exchange (r.surroundings w transport) r.ids call
    ({ r with ids := done.ids, samples := r.samples + done.trace.samples },
      { outcome := some done.outcome, trace := done.trace })
  | .addSink sink => ({ r with exchanger := r.exchanger.addSink sink }, {})
  | .enable on => ({ r with exchanger := r.exchanger.enable on }, {})
  | .react reaction => ({ r with exchanger := r.exchanger.withReactions reaction }, {})

/-- The reports of the commands in order, and where the run has come to. -/
def takeAll (w : RunSurroundings) (r : Run) : List Command → Run × List Report
  | [] => (r, [])
  | c :: rest =>
    let (r, report) := r.step w c
    let (r, reports) := takeAll w r rest
    (r, report :: reports)

end Run

end TokenEndpoint
