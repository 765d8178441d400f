import TokenEndpoint.Log
import TokenEndpoint.Payload
/-!
Responses other than a success. Their details are read from whatever the body is, unless it is nested
deeper than there is room for; then they are classified, in this order:

* `authorization_pending`, at any status: ask again later
* `interaction_required` at status 400: sign in interactively
* everything else: a refusal of the service
-/

namespace TokenEndpoint

/-! ## 1. Details -/

/-- What the body of a refusal says. -/
structure ErrorDetails where
  code : Text := ""
  description : Option Text := none
  status : Int
  rawBody : String := ""
  claims : Option Text := none
  serviceCodes : List Int := []
  correlationId : Option Text := none
  subError : Option Text := none
  deriving DecidableEq, Repr

namespace ErrorDetails

/-- A claims challenge as text: a text as it is, any other value as compact JSON. -/
def claimsText : Json → Option Text
  | .null => none
  | .string t => some t
  | v => some v.compact

/-- The integers of a list. -/
def integers : Json → List Int
  | .array items => items.filterMap fun
    | .int i => some i
    | _ => none
  | _ => []

/-- The members of a body that is a JSON object, else none; a body that is nested too deep is not
read. -/
def membersOf (room : Nat) (r : Response) : Except Failure JsonObject :=
  match r.object room with
  | .error (.transport _) => .ok []
  | read => read

/-- The details that members give. -/
def ofMembers (r : Response) (members : JsonObject) : ErrorDetails :=
  let get := Json.member members
  { code := (get "error").text?.getD []
    description := (get "error_description").text?
    status := r.status
    rawBody := r.body
    claims := claimsText (get "claims")
    serviceCodes := integers (get "error_codes")
    correlationId := (get "correlation_id").text?
    subError := (get "suberror").text? }

def ofResponse (room : Nat) (r : Response) : Except Failure ErrorDetails :=
  (membersOf room r).map (ofMembers r)

/-- What is logged while the details are read. -/
def notes (room : Nat) (r : Response) : List LogEntry :=
  match r.object room with
  | .error (.transport _) => [⟨.responses, .debug, "Error response body is not a JSON object"⟩]
  | _ => []

end ErrorDetails

/-! ## 2. Error codes -/

/-- The error codes that token endpoints are known to send. -/
inductive ErrorCode where
  | authorizationPending
  | interactionRequired
  | invalidGrant
  | invalidClient
  | invalidRequest
  | invalidScope
  | unauthorizedClient
  | unsupportedGrantType
  | expiredToken
  | slowDown
  | accessDenied
  | unknown
  deriving DecidableEq, Repr

namespace ErrorCode

def all : List ErrorCode :=
  [.authorizationPending, .interactionRequired, .invalidGrant, .invalidClient, .invalidRequest,
    .invalidScope, .unauthorizedClient, .unsupportedGrantType, .expiredToken, .slowDown, .accessDenied,
    .unknown]

def name : ErrorCode → String
  | authorizationPending => "authorization_pending"
  | interactionRequired => "interaction_required"
  | invalidGrant => "invalid_grant"
  | invalidClient => "invalid_client"
  | invalidRequest => "invalid_request"
  | invalidScope => "invalid_scope"
  | unauthorizedClient => "unauthorized_client"
  | unsupportedGrantType => "unsupported_grant_type"
  | expiredToken => "expired_token"
  | slowDown => "slow_down"
  | accessDenied => "access_denied"
  | unknown => "unknown"

end ErrorCode

/-! ## 3. Classification -/

/-- A service's code without blanks around it; a blank one is unknown. -/
def serviceCode (code : Text) : Text :=
  let trimmed := Text.trimLetters code
  if trimmed.isEmpty then ErrorCode.unknown.name else trimmed

def ErrorDetails.classify (d : ErrorDetails) : Refusal :=
  let refusal (kind : RefusalKind) (code : Text) : Refusal :=
    { kind, code, description := d.description, rawBody := d.rawBody, status := d.status,
      serviceCodes := d.serviceCodes, correlationId := d.correlationId, subError := d.subError }
  if d.code = ErrorCode.authorizationPending.name then refusal .pending d.code
  else if d.status = Response.badRequest ∧ d.code = ErrorCode.interactionRequired.name then
    refusal (.interactionRequired d.claims) d.code
  else refusal .service (serviceCode d.code)

/-- The payload of a success, else the classified refusal. -/
def Response.classify (room : Nat) (r : Response) : Except Failure Payload :=
  if r.status = Response.success then Payload.ofResponse room r
  else do
    let details ← ErrorDetails.ofResponse room r
    .error (.refused details.classify)

end TokenEndpoint
