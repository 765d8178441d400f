import TokenEndpoint.Json.Writer
import TokenEndpoint.Response
import TokenEndpoint.Settings.Coercion
/-!
The payload of a success. Access token and lifetime are required; of the rest a missing member has a
default, and null counts as missing except for the token type. Other members are ignored. Texts are kept
letter by letter.
-/

namespace TokenEndpoint

structure Payload where
  accessToken : Text
  expiresIn : Int
  tokenType : Text := "Bearer"
  extExpiresIn : Int := 0
  refreshToken : Option Text := none
  idToken : Option Text := none
  scope : Text := ""
  clientInfo : Option Text := none
  /-- The mark of a client that belongs to a family of clients. -/
  familyId : Option Text := none
  deriving DecidableEq, Repr

namespace Payload

/-! ## 1. Single members -/

/-- A text with a character that is not blank. -/
def readAccessToken (value : Option Json) : Except FieldProblem Text :=
  match value with
  | none => .error .missing
  | some v =>
    match Coercion.toText v with
    | .ok text => if Text.isBlankLetters text then .error .rejected else .ok text
    | .error problem => .error problem

def readRequiredInt (value : Option Json) : Except FieldProblem Int :=
  match value with
  | none => .error .missing
  | some v => Coercion.toInt v

/-- A text; null is none. -/
def readText (default : Text) (value : Option Json) : Except FieldProblem Text :=
  match value with
  | none => .ok default
  | some v => Coercion.toText v

def readTextOrNull (default : Text) (value : Option Json) : Except FieldProblem Text :=
  match value with
  | some .null => .ok default
  | value => readText default value

def readIntOrNull (default : Int) (value : Option Json) : Except FieldProblem Int :=
  match value with
  | none => .ok default
  | some .null => .ok default
  | some v => Coercion.toInt v

/-- A text that may be missing or null. -/
def readOptionalText (value : Option Json) : Except FieldProblem (Option Text) :=
  match value with
  | none => .ok none
  | some .null => .ok none
  | some v => (Coercion.toText v).map some

/-- Anything but null, as a message shows it. -/
def readFamilyId (value : Option Json) : Option Text :=
  match value with
  | none => none
  | some .null => none
  | some v => some v.displayLetters

/-! ## 2. All members -/

/-- The value that was read, or the default with the fault. -/
def settle {α : Type} (field : String) (default : α) (result : Except FieldProblem α) :
    α × List FieldFault :=
  match result with
  | .ok value => (value, [])
  | .error problem => (default, [{ field, problem }])

/-- The payload that the members make, or every faulty field in order. -/
def ofMembers (members : JsonObject) : Except (List FieldFault) Payload :=
  let get := Json.member? members
  let (accessToken, f₁) := settle "access_token" [] (readAccessToken (get "access_token"))
  let (expiresIn, f₂) := settle "expires_in" 0 (readRequiredInt (get "expires_in"))
  let (tokenType, f₃) := settle "token_type" [] (readText "Bearer" (get "token_type"))
  let (extExpiresIn, f₄) := settle "ext_expires_in" 0 (readIntOrNull 0 (get "ext_expires_in"))
  let (refreshToken, f₅) := settle "refresh_token" none (readOptionalText (get "refresh_token"))
  let (idToken, f₆) := settle "id_token" none (readOptionalText (get "id_token"))
  let (scope, f₇) := settle "scope" [] (readTextOrNull "" (get "scope"))
  let (clientInfo, f₈) := settle "client_info" none (readOptionalText (get "client_info"))
  let familyId := readFamilyId (get "foci")
  let faults := f₁ ++ f₂ ++ f₃ ++ f₄ ++ f₅ ++ f₆ ++ f₇ ++ f₈
  if faults.isEmpty then
    .ok { accessToken, expiresIn, tokenType, extExpiresIn, refreshToken, idToken, scope, clientInfo,
          familyId }
  else .error faults

/-- The payload of a response of success. -/
def ofResponse (room : Nat) (r : Response) : Except Failure Payload := do
  let members ← r.object room
  (ofMembers members).mapError fun faults => .transport (.badFields (faults.map (·.field)))

end Payload

end TokenEndpoint
