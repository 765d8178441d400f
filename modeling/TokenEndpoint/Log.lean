import TokenEndpoint.Text.Letter
/-!
Log entries, and how a message is marked with the correlation id of its exchange.
-/

namespace TokenEndpoint

/-- The part of the library that writes an entry. -/
inductive LogSource where
  | exchange
  | telemetry
  | responses
  | transport
  | polling
  deriving DecidableEq, Repr

def LogSource.name : LogSource → String
  | .exchange => "token_exchange.exchange"
  | .telemetry => "token_exchange.telemetry"
  | .responses => "token_exchange.responses"
  | .transport => "token_exchange.transport"
  | .polling => "device_code_polling"

inductive LogLevel where
  | debug
  | info
  | warning
  deriving DecidableEq, Repr

def LogLevel.name : LogLevel → String
  | .debug => "DEBUG"
  | .info => "INFO"
  | .warning => "WARNING"

structure LogEntry where
  source : LogSource
  level : LogLevel
  text : Text
  deriving DecidableEq, Repr

/-- The message after its correlation id, if that is not empty. -/
def LogEntry.mark (message : Text) (correlationId : Option String) : Text :=
  match correlationId with
  | some id => if id.isEmpty then message else "[Correlation ID: " ++ id ++ "] " ++ message
  | none => message

end TokenEndpoint
