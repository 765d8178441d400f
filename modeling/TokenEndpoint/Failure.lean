import TokenEndpoint.Decimal.Number
import TokenEndpoint.Decimal.Shortest
import TokenEndpoint.Decimal.Whole
import TokenEndpoint.Json.Fault
import TokenEndpoint.Text.Base64
import TokenEndpoint.Text.Utf8
import TokenEndpoint.Url.Basic
/-!
What can go wrong. Each type names causes and has one function with their wording; `Failure` is the
sum of all, with the name under which a failure is logged (`Failure.label`) and its text
(`Failure.message`).
-/

namespace TokenEndpoint

/-! ## 1. Configuration -/

inductive ConfigurationFault where
  | emptyPolicy
  | emptyAuthorityUrl
  | notAbsoluteHttps (url : String)
  | noTenant (url : String)
  /-- A path that begins with the policy segment lacks tenant or policy. -/
  | noPolicyInPath (url : String)
  /-- The host is one of policies, but the path lacks tenant or policy. -/
  | noPolicyOnHost (url : String)
  | noEndpoint
  | malformedEndpoint (url : String)
  | timeoutNotPositive (seconds : Float)
  | blankSku
  /-- Put into words elsewhere. -/
  | stated (text : String)

def ConfigurationFault.message : ConfigurationFault → String
  | .emptyPolicy => "policy cannot be empty for a policy-partitioned authority"
  | .emptyAuthorityUrl => "Authority URL cannot be empty"
  | .notAbsoluteHttps url => "Authority must be an absolute https URL, got " ++ Text.quoted url
  | .noTenant url => "Authority URL must contain a tenant path segment, got " ++ Text.quoted url
  | .noPolicyInPath url =>
    "B2C authority must have the form https://<host>/tfp/<tenant>/<policy>, got " ++ Text.quoted url
  | .noPolicyOnHost url =>
    "B2C authority must have the form https://<host>/<tenant>/<policy>, got " ++ Text.quoted url
  | .noEndpoint => "The token endpoint URL is not specified"
  | .malformedEndpoint url => "The token endpoint URL is malformed: " ++ Text.quoted url
  | .timeoutNotPositive seconds =>
    "http_timeout_seconds must be positive, got " ++ Decimal.Layout.plain.render seconds
  | .blankSku => "client_sku cannot be empty"
  | .stated text => text

/-! ## 2. Transport and decoding -/

/-- An ID token that is not three encoded segments, or whose payload is not a JSON object. -/
inductive IdTokenFault where
  | segments
  | octets (fault : Utf8.Fault)
  | json (fault : Json.Fault)
  | notObject
  deriving DecidableEq, Repr

inductive ClientInfoFault where
  | ascii (fault : EncodeFault)
  | base64 (fault : Base64.Fault)
  | octets (fault : Utf8.Fault)
  | json (fault : Json.Fault)
  deriving DecidableEq, Repr

inductive TransportFault where
  | bodyNotJson (fault : Json.Fault)
  | bodyNotObject (kind : String)
  | badFields (names : List String)
  | idToken (fault : IdTokenFault)
  | clientInfo (fault : ClientInfoFault)
  | clientInfoNotObject
  | unidentifiedAccount
  /-- The HTTP client failed with an error of its own. -/
  | network (label text : String)
  /-- Put into words elsewhere. -/
  | stated (text : String)
  deriving DecidableEq, Repr

/-- Positions in messages: one, or the first and the last of several. -/
def positions (singular plural : String) (first last : Nat) : String :=
  if first = last then singular ++ " in position " ++ toString first
  else plural ++ " in position " ++ toString first ++ "-" ++ toString last

def utf8Message (f : Utf8.Fault) : String :=
  "'utf-8' codec can't decode " ++
    positions ("byte 0x" ++ String.ofList (Text.hexDigits 2 f.first)) "bytes" f.offset
      (f.offset + f.length - 1) ++
    ": " ++ f.problem.message

/-- What an encoding says of letters that it has no octets for. -/
def encodeMessage (encoding problem : String) (f : EncodeFault) : String :=
  "'" ++ encoding ++ "' codec can't encode " ++
    positions ("character '" ++ String.ofList (Text.numericEscape f.code) ++ "'") "characters"
      f.first f.last ++
    ": " ++ problem

def IdTokenFault.message : IdTokenFault → String
  | .segments => "Error decoding token claims."
  | .octets fault => "Invalid claims string: " ++ utf8Message fault
  | .json fault => "Invalid claims string: " ++ fault.message
  | .notObject => "Invalid claims string: must be a json object"

def ClientInfoFault.message : ClientInfoFault → String
  | .ascii fault => encodeMessage "ascii" "ordinal not in range(128)" fault
  | .base64 fault => fault.message
  | .octets fault => utf8Message fault
  | .json fault => fault.message

def TransportFault.message : TransportFault → String
  | .bodyNotJson fault => "Response body is not valid JSON: " ++ fault.message
  | .bodyNotObject kind => "Response body must be a JSON object, got " ++ kind
  | .badFields names => "Invalid token response, bad fields: " ++ String.intercalate ", " names
  | .idToken fault => "Unable to decode ID token: " ++ fault.message
  | .clientInfo fault => "Unable to decode client info: " ++ fault.message
  | .clientInfoNotObject => "Client info is not a JSON object"
  | .unidentifiedAccount =>
    "Token response does not identify the account (missing object or tenant id)"
  | .network _ text => "Network error calling token endpoint: " ++ text
  | .stated text => text

/-! ## 3. Refusals of the token endpoint -/

inductive RefusalKind where
  /-- The user has not finished signing in; ask again later. -/
  | pending
  /-- The user has to sign in interactively, with the server's claims challenge if it gave one. -/
  | interactionRequired (claims : Option Text)
  | service
  deriving DecidableEq, Repr

def RefusalKind.label : RefusalKind → String
  | .pending => "Pending"
  | .interactionRequired _ => "InteractionRequired"
  | .service => "ServiceError"

/-- A response other than a success, classified. What its body says is kept letter by letter. -/
structure Refusal where
  kind : RefusalKind
  code : Text
  description : Option Text
  rawBody : String
  status : Int
  serviceCodes : List Int
  correlationId : Option Text
  subError : Option Text
  deriving DecidableEq, Repr

def Refusal.message (r : Refusal) : Text :=
  match r.description with
  | some d => if d.isEmpty then r.code else r.code ++ ": " ++ d
  | none => r.code

/-! ## 4. Fields that do not validate -/

inductive FieldProblem where
  | missing
  | notText
  | notFloat
  | unreadableFloat
  | notInt
  | unreadableInt
  | fractionalInt
  | nonFiniteInt
  | oversizedInt
  | notBool
  | unreadableBool
  /-- Rejected by a rule of the field itself. -/
  | rejected
  | notForeseen
  deriving DecidableEq, Repr

def FieldProblem.label : FieldProblem → String
  | .missing => "missing"
  | .notText => "string_type"
  | .notFloat => "float_type"
  | .unreadableFloat => "float_parsing"
  | .notInt => "int_type"
  | .unreadableInt => "int_parsing"
  | .fractionalInt => "int_from_float"
  | .nonFiniteInt => "finite_number"
  | .oversizedInt => "int_parsing_size"
  | .notBool => "bool_type"
  | .unreadableBool => "bool_parsing"
  | .rejected => "value_error"
  | .notForeseen => "extra_forbidden"

structure FieldFault where
  field : String
  problem : FieldProblem
  deriving DecidableEq, Repr

/-! ## 5. Telemetry targets -/

inductive TargetFault where
  | noUrl
  | noPath (url : String)
  | url (fault : Url.Fault)
  deriving DecidableEq, Repr

def TargetFault.message : TargetFault → String
  | .noUrl => "No URL to extract a path from"
  | .noPath text => "Cannot extract a path from " ++ Text.quoted text
  | .url fault => fault.message

/-! ## 6. Every failure -/

/-- How an HTTP client takes a request body: as text, or as octets. -/
inductive Adapter where
  | textual
  | binary
  deriving DecidableEq, Repr

inductive Failure where
  | configuration (fault : ConfigurationFault)
  | transport (fault : TransportFault)
  | refused (refusal : Refusal)
  | invalid (faults : List FieldFault)
  | url (fault : Url.Fault)
  | target (fault : TargetFault)
  | unknownAuthorityKind (name : String)
  /-- The item at this place of a joined list is not a text. -/
  | joinedNonText (index : Nat) (kind : String)
  | unhashable (kind : String)
  /-- The user-defined part does not define the operation. -/
  | unimplemented
  | missingVariable (name : String)
  | timedOut
  /-- The clock's reading is not finite. -/
  | clock (reading : Decimal.Number)
  /-- An integer has too many digits to be written. -/
  | unwritableInt
  /-- A JSON text is nested deeper than its reader has room for. -/
  | tooDeep (container : Json.Container)
  /-- A text of a form holds lone surrogates, which have no octets. -/
  | unencodable (fault : EncodeFault)
  /-- Raised by code outside this library: of the error family of an HTTP client, or of none. -/
  | foreign (family : Option Adapter) (label text : String)

def Failure.label : Failure → String
  | .configuration _ => "ConfigurationError"
  | .transport _ => "TransportFailure"
  | .refused refusal => refusal.kind.label
  | .invalid _ => "ValidationError"
  | .url _ => "ValueError"
  | .target _ => "ValueError"
  | .unknownAuthorityKind _ => "ValueError"
  | .joinedNonText _ _ => "TypeError"
  | .unhashable _ => "TypeError"
  | .unimplemented => "NotImplementedError"
  | .missingVariable _ => "KeyError"
  | .timedOut => "TimeoutError"
  | .clock reading => if reading.isNan then "ValueError" else "OverflowError"
  | .unwritableInt => "ValueError"
  | .tooDeep _ => "RecursionError"
  | .unencodable _ => "UnicodeEncodeError"
  | .foreign _ label _ => label

def Failure.message : Failure → Text
  | .configuration fault => fault.message
  | .transport fault => fault.message
  | .refused refusal => refusal.message
  | .invalid faults =>
    String.intercalate ", " (faults.map fun f => f.field ++ ": " ++ f.problem.label)
  | .url fault => fault.message
  | .target fault => fault.message
  | .unknownAuthorityKind name => Text.quoted name ++ " is not a valid AuthorityType"
  | .joinedNonText index kind =>
    "sequence item " ++ toString index ++ ": expected str instance, " ++ kind ++ " found"
  | .unhashable kind => "unhashable type: '" ++ kind ++ "'"
  | .unimplemented => ""
  | .missingVariable name => Text.quoted name
  | .timedOut => "User did not complete sign-in before the device code expired"
  | .clock reading =>
    if reading.isNan then "cannot convert float NaN to integer"
    else "cannot convert float infinity to integer"
  | .unwritableInt =>
    "Exceeds the limit (" ++ toString Decimal.digitLimit ++
      " digits) for integer string conversion; use sys.set_int_max_str_digits() to increase the limit"
  | .tooDeep container =>
    "maximum recursion depth exceeded while decoding a JSON " ++ container.name ++
      " from a unicode string"
  | .unencodable fault => encodeMessage "utf-8" "surrogates not allowed" fault
  | .foreign _ _ text => text

/-- A failure as a log shows it: its label, and its text only where personal data may be logged. -/
def Failure.details (failure : Failure) (logPii : Bool) : Text :=
  if logPii then failure.label ++ ": " ++ failure.message else failure.label

/-- A reader's halt as a failure; `wrap` says what a fault of the text is called. -/
def Json.Halt.failure (wrap : Json.Fault → TransportFault) : Json.Halt → Failure
  | .fault found => .transport (wrap found)
  | .tooDeep container => .tooDeep container

/-! ## 7. Steps that may fail -/

section Steps

variable {ε α β : Type} {x : Except ε α} {f : α → Except ε β}

@[simp] theorem ok_bind (a : α) (f : α → Except ε β) : (Except.ok a >>= f) = f a := rfl

@[simp] theorem error_bind (fault : ε) (f : α → Except ε β) :
    (Except.error fault >>= f) = .error fault := rfl

theorem toOption_eq_some {a : α} : x.toOption = some a ↔ x = .ok a := by
  cases x <;> simp [Except.toOption]

/-- Two steps give a value if both do. -/
theorem bind_eq_ok {b : β} : (x >>= f) = .ok b ↔ ∃ a, x = .ok a ∧ f a = .ok b := by
  cases x <;> simp

/-- A changed value is that of a step that gives one. -/
theorem map_eq_ok {g : α → β} {b : β} : x.map g = .ok b ↔ ∃ a, x = .ok a ∧ g a = b := by
  cases x <;> simp [Except.map]

theorem map_eq_error {g : α → β} {fault : ε} : x.map g = .error fault ↔ x = .error fault := by
  cases x <;> simp [Except.map]

/-- Two steps fail if the first does, or the second after it. -/
theorem bind_eq_error {fault : ε} :
    (x >>= f) = .error fault ↔ x = .error fault ∨ ∃ a, x = .ok a ∧ f a = .error fault := by
  cases x <;> simp

variable {δ : Type} {rename : ε → δ}

/-- Putting a fault into other words leaves values as they are. -/
theorem mapError_eq_ok {a : α} : x.mapError rename = .ok a ↔ x = .ok a := by
  cases x with
  | ok b =>
    show Except.ok b = .ok a ↔ _
    rw [Except.ok.injEq, Except.ok.injEq]
  | error fault => constructor <;> intro h <;> cases h

theorem mapError_eq_error {renamed : δ} :
    x.mapError rename = .error renamed ↔ ∃ fault, x = .error fault ∧ rename fault = renamed := by
  cases x with
  | ok b =>
    constructor
    · intro h
      cases h
    · rintro ⟨fault, h, -⟩
      cases h
  | error fault =>
    constructor
    · intro h
      exact ⟨fault, rfl, Except.error.inj h⟩
    · rintro ⟨found, h, rfl⟩
      cases h
      rfl

end Steps

end TokenEndpoint
