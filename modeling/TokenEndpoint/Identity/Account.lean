import TokenEndpoint.Identity.Claims
import TokenEndpoint.Json.Writer
/-!
Accounts. An account comes from an ID token and a client-info blob: the token's object and tenant win,
client info fills in what the token lacks. An account is known by its key, environment, object, tenant
and policy; its other fields describe it.
-/

namespace TokenEndpoint

/-! ## 1. Client info -/

/-- The account's id and its home tenant, of any JSON kind. -/
structure ClientInfo where
  uid : Json
  utid : Json

namespace ClientInfo

/-- The octets of a blob, padded to a whole number of groups. -/
def octets (blob : Text) : Except ClientInfoFault (List UInt8) := do
  let text ← (Text.charsOf (fun c => c.toNat < 0x80) 0 (Text.trimLetters blob)).mapError .ascii
  (Base64.decode (text ++ Base64.padding text.length)).mapError .base64

/-- The JSON text in a blob. -/
def text (blob : Text) : Except ClientInfoFault (List Char) := do
  let bytes ← octets blob
  (Utf8.decode bytes).mapError .octets

def json (room : Nat) (blob : Text) : Except Failure Json := do
  let chars ← (text blob).mapError fun fault => .transport (.clientInfo fault)
  (Json.readChars room chars).mapError fun halt => halt.failure fun fault => .clientInfo (.json fault)

def decode (room : Nat) (blob : Text) : Except Failure ClientInfo := do
  match ← json room blob with
  | .object members => .ok { uid := Json.member members "uid", utid := Json.member members "utid" }
  | _ => .error (.transport .clientInfoNotObject)

/-- Both ids joined by a point; without a tenant, the account's id if it is given. -/
def homeAccountId (c : ClientInfo) : Json :=
  if c.uid.isGiven && c.utid.isGiven then
    .string (c.uid.displayLetters ++ .plain '.' :: c.utid.displayLetters)
  else c.uid.orElse .null

end ClientInfo

/-! ## 2. Accounts -/

/-- Its parts are of any JSON kind, like the claims that they come from. -/
structure Account where
  environment : Json
  objectId : Json
  tenantId : Json
  policy : Json := .null
  homeAccountId : Json := .null
  username : Json := .null
  name : Json := .null

namespace Account

/-- Environment, object, tenant and policy. -/
def key (a : Account) : List Json :=
  [a.environment, a.objectId, a.tenantId, a.policy]

/-- Two accounts are the same if their keys are. -/
def same (a b : Account) : Bool :=
  Json.sameItems a.key b.key

/-- The texts of a list whose first item stands at `index`; every item has to be a text. -/
def texts (index : Nat) : List Json → Except Failure (List Text)
  | [] => .ok []
  | .string t :: r => (texts (index + 1) r).map (t :: ·)
  | v :: _ => .error (.joinedNonText index v.kind)

/-- What the cache key is made of: the home account, or the object if there is none, environment,
tenant, and the policy if there is one. -/
def cacheKeyParts (a : Account) : List Json :=
  [a.homeAccountId.orElse a.objectId, a.environment, a.tenantId] ++
    if a.policy.isGiven then [a.policy] else []

/-- The parts joined by hyphens, in lower case. -/
def cacheKeyText (a : Account) : Except Failure Text :=
  (texts 0 a.cacheKeyParts).map fun parts => Text.lowerLetters (List.intercalate [.plain '-'] parts)

/-- The cache key as it is shown. -/
def cacheKey (a : Account) : Except Failure String :=
  a.cacheKeyText.map Text.toString

/-- The account that claims and client info name. -/
def identify (info : ClientInfo) (claims : Claims) (environment policyTag : Json) :
    Except TransportFault Account :=
  let objectId := claims.objectId.orElse (info.uid.orElse claims.subject)
  let tenantId := claims.tenantId.orElse info.utid
  if objectId.isGiven && tenantId.isGiven then
    .ok { environment, objectId, tenantId
          policy := policyTag.orElse .null
          homeAccountId := info.homeAccountId
          username := claims.username
          name := claims.name }
  else .error .unidentifiedAccount

def build (room : Nat) (blob : Text) (claims : Claims) (environment policyTag : Json) :
    Except Failure Account := do
  let info ← ClientInfo.decode room blob
  (identify info claims environment policyTag).mapError .transport

/-- One of each account: an account that is the same as an earlier one is left out. -/
def distinct (accounts : List Account) : List Account :=
  accounts.foldl (fun kept a => if kept.any a.same then kept else kept ++ [a]) []

/-- The number of different accounts; a list or an object in a key cannot be counted. -/
def countDistinct (accounts : List Account) : Except Failure Nat :=
  let uncountable (v : Json) : Option Failure :=
    match v with
    | .array _ => some (.unhashable v.kind)
    | .object _ => some (.unhashable v.kind)
    | _ => none
  match (accounts.flatMap key).findSome? uncountable with
  | some failure => .error failure
  | none => .ok (distinct accounts).length

end Account

end TokenEndpoint
