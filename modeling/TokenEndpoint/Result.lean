import TokenEndpoint.Authority
import TokenEndpoint.Identity.Account
import TokenEndpoint.Payload
/-!
The result of a successful exchange. Both expiry times count from one sample of the clock.
-/

namespace TokenEndpoint

structure Result where
  accessToken : Text
  /-- The host of the authority that issued the tokens. -/
  environment : String
  /-- Seconds since the epoch. -/
  expiresOn : Int
  /-- Seconds since the epoch, or zero where the server gave no extended lifetime. -/
  extExpiresOn : Int
  scopes : Text := ""
  refreshToken : Option Text := none
  idToken : Option Text := none
  familyId : Option Text := none
  /-- There only if the response had both an ID token and client info. -/
  account : Option Account := none
  tokenType : Text := "Bearer"

namespace Result

def scopeList (r : Result) : List Text :=
  Text.wordLetters r.scopes

def isExpired (r : Result) (now : Decimal.Number) : Bool :=
  (Decimal.Number.whole r.expiresOn).atMost now

/-- The same tokens, times and texts, and the same account. -/
def same (a b : Result) : Bool :=
  a.accessToken == b.accessToken && a.environment == b.environment && a.expiresOn == b.expiresOn &&
    a.extExpiresOn == b.extExpiresOn && a.scopes == b.scopes && a.refreshToken == b.refreshToken &&
    a.idToken == b.idToken && a.familyId == b.familyId && a.tokenType == b.tokenType &&
    match a.account, b.account with
    | none, none => true
    | some x, some y => x.same y
    | _, _ => false

/-- A text that is there and not empty. -/
def given? (text : Option Text) : Option Text :=
  text.bind fun t => if t.isEmpty then none else some t

/-- The account of a payload: none unless it has both an ID token and client info. The ID token is
decoded even where client info is missing. -/
def accountOf (room : Json.Room) (payload : Payload) (environment : String)
    (policyTag : Option String) : Except Failure (Option Account) :=
  match given? payload.idToken with
  | none => .ok none
  | some token => do
    let claims ← IdToken.decode room token
    match given? payload.clientInfo with
    | none => .ok none
    | some blob =>
      (Account.build room.clientInfo blob claims (.ofString environment) (.ofOption policyTag)).map some

/-- The result that a payload gives at a time. -/
def assemble (room : Json.Room) (payload : Payload) (capturedAt : Int) (authority : Authority) :
    Except Failure Result := do
  let environment ← authority.host
  let account ← accountOf room payload environment authority.variant.policyTag
  return {
    accessToken := payload.accessToken
    environment
    expiresOn := capturedAt + payload.expiresIn
    extExpiresOn := if 0 < payload.extExpiresIn then capturedAt + payload.extExpiresIn else 0
    scopes := payload.scope
    refreshToken := payload.refreshToken
    idToken := payload.idToken
    familyId := payload.familyId
    account
    tokenType := payload.tokenType }

end Result

end TokenEndpoint
