import TokenEndpoint.Failure
import TokenEndpoint.Fields
import TokenEndpoint.Scope
/-!
Grants: the form parameters that tell the token endpoint which flow is used, with the requested
scopes and, where the server asked for it, a claims challenge.

What a caller gives is Unicode text, strings of characters. A challenge that comes out of a JSON body may
hold lone surrogates as well; `challengedParameters` takes such a text too.
-/

namespace TokenEndpoint

/-- The parameters of a form: each name with its ordered values. -/
abbrev Parameters := Fields String (List String)

/-- Parameters whose values are kept letter by letter. -/
abbrev LetterParameters := Fields String (List Text)

def Parameters.letters (params : Parameters) : LetterParameters :=
  params.map fun (name, values) => (name, values.map Text.ofString)

/-- The flow and what it needs. Its texts are Unicode texts: one with a lone surrogate cannot be written
into a form. -/
inductive Flow where
  | authorizationCode (code redirectUri : String) (verifier : Option String)
  | refreshToken (token : String)
  | clientCredentials
  | deviceCode (code : String)
  | password (username secret : String)
  | onBehalfOf (assertion : String)
  /-- A flow that a user of the library defines. -/
  | custom (defined : Except Failure Parameters)
  /-- A flow whose user defines all parameters of its grants: nothing is added for scopes and claims. -/
  | whole (defined : Except Failure Parameters)

namespace Flow

def deviceCodeType : String := "urn:ietf:params:oauth:grant-type:device_code"

def jwtBearerType : String := "urn:ietf:params:oauth:grant-type:jwt-bearer"

/-- The parameters of the flow itself. -/
def parameters : Flow → Except Failure Parameters
  | authorizationCode code redirectUri verifier =>
    .ok ([("grant_type", ["authorization_code"]), ("code", [code]), ("redirect_uri", [redirectUri])]
      ++ match verifier with
        | some v => if v.isEmpty then [] else [("code_verifier", [v])]
        | none => [])
  | refreshToken token => .ok [("grant_type", ["refresh_token"]), ("refresh_token", [token])]
  | clientCredentials => .ok [("grant_type", ["client_credentials"])]
  | deviceCode code => .ok [("grant_type", [deviceCodeType]), ("device_code", [code])]
  | password username secret =>
    .ok [("grant_type", ["password"]), ("username", [username]), ("password", [secret])]
  | onBehalfOf assertion =>
    .ok [("grant_type", [jwtBearerType]), ("assertion", [assertion]),
      ("requested_token_use", ["on_behalf_of"])]
  | custom defined => defined
  | whole defined => defined

/-- Defined by this library and not by its user. -/
def isBuiltIn : Flow → Bool
  | custom _ => false
  | whole _ => false
  | _ => true

/-- All parameters of a grant are those of its flow. -/
def isWhole : Flow → Bool
  | whole _ => true
  | _ => false

theorem isWhole_of_isBuiltIn {flow : Flow} (h : flow.isBuiltIn = true) : flow.isWhole = false := by
  cases flow with
  | whole defined => cases h
  | _ => rfl

/-- An application on its own asks for no reserved scopes. -/
def reservedScopes : Flow → List String
  | clientCredentials => []
  | _ => Scope.common

end Flow

structure Grant where
  flow : Flow
  scopes : List String := []
  claims : Option String := none

namespace Grant

def scopeParameter (g : Grant) : String :=
  Scope.merge g.scopes g.flow.reservedScopes

/-- Sets a parameter to one value, unless the value is empty. -/
def setGiven (params : Parameters) (name value : String) : Parameters :=
  if value.isEmpty then params else params.set name [value]

theorem setGiven_of_ne {value : String} (h : value ≠ "") (params : Parameters) (name : String) :
    setGiven params name value = params.set name [value] :=
  if_neg fun he => h (String.isEmpty_iff.mp he)

theorem get?_setGiven_of_ne {name other : String} (hne : other ≠ name) (value : String)
    (params : Parameters) : (setGiven params name value).get? other = params.get? other := by
  unfold setGiven
  split
  · rfl
  · exact Fields.get?_set_of_ne hne [value] params

/-- The parameters of a flow with the scopes and the claims of the grant. -/
def complete (g : Grant) (params : Parameters) : Parameters :=
  if g.flow.isWhole then params
  else setGiven (setGiven params "scope" g.scopeParameter) "claims" (g.claims.getD "")

/-- All parameters of the grant. -/
def toParameters (g : Grant) : Except Failure Parameters := do
  let params ← g.flow.parameters
  return g.complete params

/-- All parameters of the grant with a challenge, whatever letters it has, in place of its own claims. -/
def challengedParameters (g : Grant) (challenge : Text) : Except Failure LetterParameters := do
  let params ← toParameters { g with claims := none }
  return if g.flow.isWhole || challenge.isEmpty then params.letters
    else params.letters.set "claims" [challenge]

theorem toParameters_of_isBuiltIn {g : Grant} (h : g.flow.isBuiltIn = true) {params : Parameters}
    (hp : g.flow.parameters = .ok params) :
    g.toParameters =
      .ok (setGiven (setGiven params "scope" g.scopeParameter) "claims" (g.claims.getD "")) := by
  rw [toParameters, hp, ok_bind, complete, Flow.isWhole_of_isBuiltIn h]
  rfl

end Grant

end TokenEndpoint
