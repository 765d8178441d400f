import TokenEndpoint.Settings.Coercion
import TokenEndpoint.Settings.EnvFile
import TokenEndpoint.Text.Lowercase
/-!
Settings. Each field takes its value from the first source that has one: values given by keyword, the
environment, a `.env` file, the default. Names of fields do not depend on the case of letters; in the
environment and in the file they stand after `TOKEN_EXCHANGE_`.

A keyword that is no field is a fault, and so is a name with a value in the file that is neither a
field's variable nor a field; in the environment such a name is nobody's.
-/

namespace TokenEndpoint

/-- The version of this library that requests announce. -/
def libraryVersion : String := "0.1.0"

structure Settings where
  /-- How long an HTTP client may take. -/
  httpTimeoutSeconds : Float := 30.0
  /-- Whether an HTTP client checks the endpoint's certificate. -/
  verifySsl : Bool := true
  clientSku : String := "token-exchange-py"
  clientVersion : String := libraryVersion
  /-- Whether the server is asked to send the correlation id back. -/
  returnCorrelationId : Bool := true
  /-- Whether the text of a failure may be logged. -/
  logPii : Bool := false
  /-- Whether finished records go to the sinks. -/
  telemetryEnabled : Bool := true

namespace Settings

/-! ## 1. Sources -/

def fieldNames : List String :=
  ["http_timeout_seconds", "verify_ssl", "client_sku", "client_version", "return_correlation_id",
    "log_pii", "telemetry_enabled"]

/-- What stands before the name of a field in the environment and in a `.env` file. -/
def variableStart : String := "token_exchange_"

def environmentName (field : String) : String := variableStart ++ field

structure Sources where
  values : List (String × Json) := []
  environment : List (String × String) := []
  envFile : Option String := none

/-- Names in lower case; of several spellings the last one counts. -/
def lowerNames {α : Type} (pairs : List (String × α)) : Fields String α :=
  Fields.ofPairs ((Fields.ofPairs pairs).map fun (name, value) => (Text.lower name, value))

/-- The value given by keyword to a field; of several spellings the first one counts. -/
def Sources.keyword? (s : Sources) (field : String) : Option Json :=
  ((Fields.ofPairs s.values).find? fun given => Text.lower given.1 == field).map (·.2)

/-- The bindings of the `.env` file. -/
def Sources.bindings (s : Sources) : Fields String (Option String) :=
  match s.envFile with
  | some text => lowerNames (EnvFile.read s.environment text)
  | none => []

/-- The value that the sources give to a field. -/
def Sources.value? (s : Sources) (field : String) : Option Json :=
  (s.keyword? field).orElse fun _ =>
    (((lowerNames s.environment).get? (environmentName field)).map Json.ofString).orElse fun _ =>
      ((s.bindings.get? (environmentName field)).bind id).map Json.ofString

/-- Whether a name is one of the fields. -/
def isField (name : String) : Bool :=
  fieldNames.contains (Text.lower name)

/-- Names that no field has: those of the `.env` file that have a value, then those given by
keyword. In the file the bare name of a field is nobody's. -/
def Sources.unforeseen (s : Sources) : List String :=
  let known := fieldNames.map environmentName ++ fieldNames
  let inFile := s.bindings.filterMap fun (name, value) =>
    if known.contains name || (value.getD "").isEmpty then none else some name
  let given := ((Fields.ofPairs s.values).map (·.1)).filter fun name =>
    !isField name && !inFile.contains name
  inFile ++ given

/-! ## 2. Validation -/

/-- The value of a field, and the fault in it if there is one. -/
def Sources.field {α : Type} (s : Sources) (name : String) (coerce : Json → Except FieldProblem α)
    (default : α) : α × List FieldFault :=
  match s.value? name with
  | none => (default, [])
  | some given =>
    match coerce given with
    | .ok value => (value, [])
    | .error problem => (default, [{ field := name, problem }])

/-- The settings of the given sources, or every fault: those of the fields in order, then the names
that no field has. -/
def ofSources (s : Sources) : Except Failure Settings :=
  let base : Settings := {}
  let (httpTimeoutSeconds, f₁) :=
    s.field "http_timeout_seconds" Coercion.toFloat base.httpTimeoutSeconds
  let (verifySsl, f₂) := s.field "verify_ssl" Coercion.toBool base.verifySsl
  let (clientSku, f₃) := s.field "client_sku" Coercion.toPlainText base.clientSku
  let (clientVersion, f₄) := s.field "client_version" Coercion.toPlainText base.clientVersion
  let (returnCorrelationId, f₅) :=
    s.field "return_correlation_id" Coercion.toBool base.returnCorrelationId
  let (logPii, f₆) := s.field "log_pii" Coercion.toBool base.logPii
  let (telemetryEnabled, f₇) := s.field "telemetry_enabled" Coercion.toBool base.telemetryEnabled
  let faults := f₁ ++ f₂ ++ f₃ ++ f₄ ++ f₅ ++ f₆ ++ f₇ ++
    s.unforeseen.map fun name => { field := name, problem := .notForeseen }
  if faults.isEmpty then
    .ok { httpTimeoutSeconds, verifySsl, clientSku, clientVersion, returnCorrelationId, logPii,
          telemetryEnabled }
  else .error (.invalid faults)

/-- The timeout is not at or below zero, and the client's name is not blank. -/
def validate (s : Settings) : Except Failure Unit :=
  if s.httpTimeoutSeconds ≤ 0 then
    .error (.configuration (.timeoutNotPositive s.httpTimeoutSeconds))
  else if Text.isBlankText s.clientSku then .error (.configuration .blankSku)
  else .ok ()

end Settings

end TokenEndpoint
