import TokenEndpoint.Authority
import TokenEndpoint.Grant
import TokenEndpoint.RequestHeaders
import TokenEndpoint.Text.Base64
import TokenEndpoint.Text.Form
/-!
Requests. A draft collects headers and parameters; the client's credential is applied last, so that it
may add to or replace what the grant has set; freezing a draft encodes the parameters, which have to be
Unicode texts.
-/

namespace TokenEndpoint

/-- A form-encoded POST to a token endpoint. -/
structure Request where
  url : String
  headers : Fields String String
  body : String
  deriving DecidableEq, Repr

namespace Request

def method : String := "POST"

def contentType : String := "application/x-www-form-urlencoded"

/-- The parameters that the body encodes. -/
def parameters (r : Request) : Parameters :=
  Form.decode r.body

end Request

/-! ## 1. Drafts -/

structure Draft where
  url : String
  headers : Fields String String := []
  parameters : LetterParameters := []
  deriving DecidableEq, Repr

namespace Draft

def setParameter (d : Draft) (name : String) (values : List Text) : Draft :=
  { d with parameters := d.parameters.set name values }

def setHeader (d : Draft) (name value : String) : Draft :=
  { d with headers := d.headers.set name value }

/-- Sets every parameter of a list in turn. -/
def setParameters (d : Draft) (params : LetterParameters) : Draft :=
  params.foldl (fun d (name, values) => d.setParameter name values) d

/-- Every value with its name. -/
def pairs (d : Draft) : List (String × Text) :=
  d.parameters.flatMap fun (name, values) => values.map fun value => (name, value)

/-- The request of a draft, unless a value holds a lone surrogate. -/
def freeze (d : Draft) : Except Failure Request := do
  let pairs ← (Form.plainPairs d.pairs).mapError .unencodable
  return { url := d.url, headers := d.headers, body := Form.encodePairs pairs }

/-- The draft with the parameters of a grant, if the grant can be serialized. -/
def addSerialized (d : Draft) (serialized : Except Failure LetterParameters) : Except Failure Draft :=
  serialized.map d.setParameters

def addGrant (d : Draft) (g : Grant) : Except Failure Draft :=
  d.addSerialized (g.toParameters.map Parameters.letters)

end Draft

/-! ## 2. Credentials -/

/-- How a client proves who it is. Its texts are Unicode texts, like those of a flow. -/
inductive Credential where
  | none
  | publicClient (clientId : String)
  | secretPost (clientId clientSecret : String)
  | secretBasic (clientId clientSecret : String)
  | assertion (clientId assertion assertionType : String)
  /-- A way that a user of the library defines: the changed draft, and a failure if it fails. -/
  | custom (change : Draft → Draft × Option Failure)

namespace Credential

def jwtBearerType : String := "urn:ietf:params:oauth:client-assertion-type:jwt-bearer"

/-- A way that its user has not defined. -/
def undefined : Credential := custom fun d => (d, some .unimplemented)

def isBuiltIn : Credential → Bool
  | custom _ => false
  | _ => true

/-- The parameters that a credential of this library sets. -/
def parameters : Credential → Parameters
  | publicClient clientId => [("client_id", [clientId])]
  | secretPost clientId clientSecret =>
    [("client_id", [clientId]), ("client_secret", [clientSecret])]
  | assertion clientId text assertionType =>
    [("client_id", [clientId]), ("client_assertion", [text]),
      ("client_assertion_type", [assertionType])]
  | _ => []

/-- Name and secret, form-encoded each, joined by a colon and written in base64. -/
def basicHeader (clientId clientSecret : String) : String :=
  let joined := Form.encodeText clientId.toList ++ ':' :: Form.encodeText clientSecret.toList
  "Basic " ++ String.ofList (Base64.encode (Utf8.encode joined))

/-- The headers that a credential of this library sets. -/
def headers : Credential → Fields String String
  | secretBasic clientId clientSecret =>
    [(HeaderName.authorization, basicHeader clientId clientSecret)]
  | _ => []

/-- The draft with the credential in it. What a credential changed before it failed stays. -/
def applyTo (c : Credential) (d : Draft) : Draft × Option Failure :=
  match c with
  | custom change => change d
  | c =>
    let d := d.setParameters c.parameters.letters
    (c.headers.foldl (fun d (name, value) => d.setHeader name value) d, Option.none)

end Credential

/-! ## 3. Steps of a draft -/

namespace Draft

inductive Step where
  | parameter (name : String) (values : List String)
  | header (name value : String)
  | credential (c : Credential)
  | grant (g : Grant)

def step (d : Draft) : Step → Draft × Option Failure
  | .parameter name values => (d.setParameter name (values.map Text.ofString), none)
  | .header name value => (d.setHeader name value, none)
  | .credential c => c.applyTo d
  | .grant g =>
    match d.addGrant g with
    | .ok changed => (changed, none)
    | .error failure => (d, some failure)

/-- Takes the steps in order up to the first that fails. -/
def run (d : Draft) : List Step → Draft × Option Failure
  | [] => (d, none)
  | s :: rest =>
    match d.step s with
    | (d, none) => run d rest
    | failed => failed

end Draft

/-- The credential that takes steps. -/
def Credential.ofSteps (steps : List Draft.Step) : Credential :=
  .custom fun d => d.run steps

/-! ## 4. Building a request -/

/-- The URL of a token endpoint: absolute, of one of the two web schemes. -/
def checkEndpoint (url : Option String) : Except Failure String :=
  let url := url.getD ""
  if url.isEmpty then .error (.configuration .noEndpoint)
  else match Url.parse url with
    | .error fault => .error (.url fault)
    | .ok parsed =>
      if (parsed.scheme = "http" ∨ parsed.scheme = "https") ∧ !parsed.netloc.isEmpty then .ok url
      else .error (.configuration (.malformedEndpoint url))

namespace Draft

/-- A draft with the static headers, if there are any, and the content type. -/
def ofHeaders (url platform : String) (headers : Option RequestHeaders) : Draft :=
  let fields := match headers with
    | some h => h.fields platform
    | none => []
  ({ url, headers := Fields.setAll [] fields } : Draft).setHeader HeaderName.contentType
    Request.contentType

/-- The draft with a credential in it, if one is given. -/
def addCredential (d : Draft) : Option Credential → Except Failure Draft
  | none => .ok d
  | some c =>
    match c.applyTo d with
    | (d, none) => .ok d
    | (_, some failure) => .error failure

end Draft

/-- Headers, the parameters of a grant and the credential in a draft for the authority's endpoint. -/
def buildDraft (platform : String) (authority : Authority)
    (serialized : Except Failure LetterParameters) (headers : Option RequestHeaders)
    (credential : Option Credential) : Except Failure Draft := do
  let url ← checkEndpoint authority.tokenEndpointUrl
  let d ← (Draft.ofHeaders url platform headers).addSerialized serialized
  d.addCredential credential

def buildRequest (platform : String) (authority : Authority) (grant : Grant)
    (headers : Option RequestHeaders) (credential : Option Credential) : Except Failure Request :=
  buildDraft platform authority (grant.toParameters.map Parameters.letters) headers credential >>=
    Draft.freeze

/-- The request of a grant with a challenge, whatever letters the challenge has. -/
def buildChallenged (platform : String) (authority : Authority) (grant : Grant) (challenge : Text)
    (headers : Option RequestHeaders) (credential : Option Credential) : Except Failure Request :=
  buildDraft platform authority (grant.challengedParameters challenge) headers credential >>=
    Draft.freeze

end TokenEndpoint
