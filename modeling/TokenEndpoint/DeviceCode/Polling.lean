import TokenEndpoint.Exchange
/-!
Polling with a device code. The loop asks again, every five seconds, as long as the user has not
finished signing in and the device code has not expired; any other outcome ends it.
-/

namespace TokenEndpoint.DeviceCode

/-- How long to wait before asking again. -/
def intervalSeconds : Nat := 5

/-- How long a device code is good for. -/
def lifetimeSeconds : Nat := 900

/-- What one turn of the loop meets: a reading of the monotonic clock, and, if it exchanges, the
world outside. -/
structure Turn where
  reading : Decimal.Number
  surroundings : Surroundings

/-- Where the loop has come to. -/
inductive Progress where
  /-- No turn was left. -/
  | polling
  | ended (outcome : Except Failure Result)

structure Course where
  progress : Progress
  ids : IdSupply
  trace : Trace

/-- The refusals after which to ask again. -/
def isPending : Except Failure Result → Bool
  | .error (.refused refusal) => refusal.kind == .pending
  | _ => false

/-- Takes turns until one ends the loop. -/
def takeTurns (e : Exchanger) (call : Call) (deadline : Decimal.Number) (ids : IdSupply) :
    List Turn → Course
  | [] => { progress := .polling, ids, trace := [] }
  | turn :: later =>
    if turn.reading.below deadline then
      let done := e.exchange turn.surroundings ids call
      if isPending done.outcome then
        let rest := takeTurns e call deadline done.ids later
        { rest with trace := done.trace ++ .slept intervalSeconds :: rest.trace }
      else { progress := .ended done.outcome, ids := done.ids, trace := done.trace }
    else { progress := .ended (.error .timedOut), ids, trace := [] }

/-- The call that every turn makes: one set of headers, so one correlation id. -/
def call (authority : Authority) (deviceCode clientId : String) (headers : RequestHeaders) : Call :=
  { authority
    grant := { flow := .deviceCode deviceCode, scopes := ["User.Read"] }
    headers := some headers
    credential := some (.publicClient clientId)
    clientId := some clientId }

/-- Polls from a first reading of the monotonic clock, with fresh headers of the given settings. -/
def poll (e : Exchanger) (settings : Settings) (ids : IdSupply) (authority : Authority)
    (deviceCode clientId : String) (first : Decimal.Number) (turns : List Turn) : Course :=
  let (headers, ids) := RequestHeaders.create ids none [] settings
  takeTurns e (call authority deviceCode clientId headers) (first + .whole lifetimeSeconds) ids turns

end TokenEndpoint.DeviceCode
