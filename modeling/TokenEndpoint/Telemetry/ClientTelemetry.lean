import TokenEndpoint.Log
import TokenEndpoint.Text.Blank
import TokenEndpoint.Text.Pattern
import TokenEndpoint.Text.Quoted
/-!
The server's account of a request, as one response header gives it: five fields between commas, the
first of them the version of the layout, the next two made of digits, full stops and bars only. The
version is looked at before the layout, which is a pattern for every version there may be.
-/

namespace TokenEndpoint

structure ClientTelemetry where
  version : String
  serverErrorCode : String
  serverSubErrorCode : String
  tokenAge : String
  speInfo : String
  deriving DecidableEq, Repr

namespace ClientTelemetry

/-- The one version of the layout that is understood. -/
def knownVersion : String := "1"

def isCodeChar (c : Char) : Bool :=
  c.isDigit || c == '.' || c == '|'

/-- Why a header is ignored. -/
inductive Fault where
  | version (found : String)
  | malformed
  deriving DecidableEq, Repr

def Fault.message : Fault → String
  | .version found =>
    "Client telemetry header version " ++ Text.quoted found ++ " does not match expected version " ++
      Text.quoted knownVersion
  | .malformed => "Client telemetry header is malformed, ignoring it"

/-- A number, which a full stop and more digits may follow, and four more fields. -/
def layout : Text.Pattern :=
  let comma : Text.Pattern.Item := ⟨.one, (· == ',')⟩
  let codes : Text.Pattern.Item := ⟨.any, isCodeChar⟩
  let others : Text.Pattern.Item := ⟨.any, (· != ',')⟩
  [⟨.atLeastOne, fun c => '1' ≤ c && c ≤ '9'⟩, ⟨.atMostOne, (· == '.')⟩, codes, comma, codes, comma,
    codes, comma, others, ⟨.any, fun c => c.isDigit || c == '.'⟩, comma, others]

/-- The fields in their order; one that is missing is empty. -/
def ofFields (fields : List (List Char)) : ClientTelemetry :=
  let field (i : Nat) : String := String.ofList (fields[i]?.getD [])
  { version := field 0
    serverErrorCode := field 1
    serverSubErrorCode := field 2
    tokenAge := field 3
    speInfo := field 4 }

/-- The account that a text gives; the version is looked at first. -/
def ofText (text : List Char) : Except Fault ClientTelemetry :=
  let version := (Text.cut ',' text).1
  if version ≠ knownVersion.toList then .error (.version (String.ofList version))
  else if layout.fits text then .ok (ofFields (Text.splitUpTo ',' 4 text))
  else .error .malformed

/-- The account in a header, if there is one, and what is logged about a header that is ignored. A
blank header is none. -/
def read (header : Option String) : Option ClientTelemetry × List LogEntry :=
  match header with
  | none => (none, [])
  | some text =>
    if Text.isBlankText text then (none, [])
    else match ofText text.toList with
      | .ok found => (some found, [])
      | .error fault => (none, [⟨.telemetry, .warning, fault.message⟩])

end ClientTelemetry

end TokenEndpoint
