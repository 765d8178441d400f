import TokenEndpoint.Failure
import TokenEndpoint.Json.Reader
/-!
The claims of an ID token. The token is three base64url segments; only the payload's claims are used,
but header and signature have to be well formed too.
-/

namespace TokenEndpoint

/-- Claim values are kept as they are, of any JSON kind; a missing one is null. -/
structure Claims where
  subject : Json
  issuer : Json
  tenantId : Json
  objectId : Json
  preferredUsername : Json
  name : Json
  email : Json
  upn : Json
  audience : Json
  issuedAt : Json
  expiration : Json
  version : Json
  raw : JsonObject

namespace Claims

/-- Of a list of audiences the first. -/
def firstAudience : Json → Json
  | .array [] => .null
  | .array (first :: _) => first
  | audience => audience

def ofMembers (members : JsonObject) : Claims :=
  let get := Json.member members
  { subject := get "sub"
    issuer := get "iss"
    tenantId := get "tid"
    objectId := get "oid"
    preferredUsername := get "preferred_username"
    name := get "name"
    email := get "email"
    upn := get "upn"
    audience := firstAudience (get "aud")
    issuedAt := get "iat"
    expiration := get "exp"
    version := get "ver"
    raw := members }

/-- The first name that is given. -/
def username (c : Claims) : Json :=
  c.preferredUsername.orElse (c.upn.orElse c.email)

end Claims

/-! ## ID tokens -/

namespace IdToken

/-- The octets of a segment, padded to a whole number of groups. -/
def decodeSegment (segment : List Char) : Except Base64.Fault (List UInt8) :=
  Base64.decode (segment ++ Base64.padding (Utf8.encode segment).length)

/-- Header, payload and signature: cut at the last and then at the first dot. -/
def segments? (token : List Char) : Option (List Char × List Char × List Char) :=
  match Text.cutLast '.' token with
  | (some signed, signature) =>
    match Text.cut '.' signed with
    | (header, some payload) => some (header, payload, signature)
    | _ => none
  | _ => none

def isObjectText (room : Nat) (octets : List UInt8) : Bool :=
  match Utf8.decode octets with
  | .ok text =>
    match Json.readChars room text with
    | .ok (.object _) => true
    | _ => false
  | .error _ => false

/-- The octets of the payload, if all three segments are well formed. A header that is nested too deep is
no worse than any other that is not read. -/
def payload? (room : Nat) (token : List Char) : Option (List UInt8) :=
  match segments? token with
  | none => none
  | some (header, payload, signature) =>
    match decodeSegment header, decodeSegment payload, decodeSegment signature with
    | .ok h, .ok p, .ok _ => if isObjectText room h then some p else none
    | _, _, _ => none

/-- The claims in the octets of a payload. One that is nested too deep is no fault of the token. -/
def readClaims (room : Nat) (octets : List UInt8) : Except Failure Claims :=
  let fault (f : IdTokenFault) : Failure := .transport (.idToken f)
  match Utf8.decode octets with
  | .error found => .error (fault (.octets found))
  | .ok text =>
    match Json.readChars room text with
    | .error halt => .error (halt.failure fun found => .idToken (.json found))
    | .ok (.object members) => .ok (Claims.ofMembers members)
    | .ok _ => .error (fault .notObject)

/-- Only a text without lone surrogates has octets. -/
def decode (room : Json.Room) (token : Text) : Except Failure Claims :=
  match token.chars?.bind (payload? room.header) with
  | none => .error (.transport (.idToken .segments))
  | some octets => readClaims room.payload octets

end IdToken

end TokenEndpoint
