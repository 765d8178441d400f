import TokenEndpoint.Failure
/-!
Token issuers. `Authority.ofUrl` reads the recognised shapes of an authority URL:

* `https://<host>/<tenant>`
* `https://<host>/tfp/<tenant>/<policy>` and `https://<tenant>.b2clogin.com/<tenant>/<policy>`,
  whose accounts are partitioned by policy
* `https://<host>/adfs`, which has no tenant
-/

namespace TokenEndpoint

inductive AuthorityKind where
  | aad
  | b2c
  | adfs
  deriving DecidableEq, Repr

namespace AuthorityKind

def all : List AuthorityKind := [.aad, .b2c, .adfs]

def name : AuthorityKind → String
  | .aad => "aad"
  | .b2c => "b2c"
  | .adfs => "adfs"

def ofName (name : String) : Except Failure AuthorityKind :=
  match all.find? (·.name == name) with
  | some kind => .ok kind
  | none => .error (.unknownAuthorityKind name)

/-- What follows the authority's own URL in the URL of its token endpoint. -/
def endpointSuffix : AuthorityKind → String
  | .adfs => "/oauth2/token"
  | _ => "/oauth2/v2.0/token"

end AuthorityKind

/-- Whether accounts are identified by object and tenant alone, or also by the policy that issued
their tokens. -/
inductive IssuerVariant where
  | plain
  | policyPartitioned (policy : String)
  deriving DecidableEq, Repr

namespace IssuerVariant

/-- A partition has a policy that is not empty. -/
def partitioned (policy : String) : Except Failure IssuerVariant :=
  if policy.isEmpty then .error (.configuration .emptyPolicy) else .ok (.policyPartitioned policy)

def policyTag : IssuerVariant → Option String
  | plain => none
  | policyPartitioned policy => some policy

end IssuerVariant

/-- A token issuer. A given `tokenEndpoint` takes the place of the derived one. -/
structure Authority where
  canonicalUrl : String
  kind : AuthorityKind := .aad
  variant : IssuerVariant := .plain
  tenant : Option String := none
  tokenEndpoint : Option String := none
  deriving DecidableEq, Repr

namespace Authority

def policySegment : String := "tfp"

def policyHostSuffix : String := ".b2clogin.com"

def adfsSegment : String := "adfs"

/-! ## 1. What an authority answers -/

def tokenEndpointUrl (a : Authority) : Option String :=
  match a.tokenEndpoint with
  | some endpoint => some endpoint
  | none => if a.canonicalUrl.isEmpty then none else some (a.canonicalUrl ++ a.kind.endpointSuffix)

def host (a : Authority) : Except Failure String :=
  match Url.parse a.canonicalUrl with
  | .ok url => .ok url.host
  | .error fault => .error (.url fault)

/-! ## 2. Reading a URL -/

/-- A partitioned authority below `base`. -/
def ofPolicy (base tenant policy : String) (tokenEndpoint : Option String) : Authority :=
  { canonicalUrl := base ++ "/" ++ tenant ++ "/" ++ policy
    kind := .b2c
    variant := .policyPartitioned policy
    tenant := some tenant
    tokenEndpoint }

/-- The authority that a host and the path segments after it name; `url` is what faults quote. -/
def ofSegments (url host : String) (segments : List String) (tokenEndpoint : Option String) :
    Except ConfigurationFault Authority :=
  let base := "https://" ++ host
  match segments with
  | [] => .error (.noTenant url)
  | first :: rest =>
    if Text.lower first = adfsSegment then
      .ok { canonicalUrl := base ++ "/" ++ adfsSegment, kind := .adfs, tokenEndpoint }
    else if Text.lower first = policySegment then
      match rest with
      | tenant :: policy :: _ =>
        .ok (ofPolicy (base ++ "/" ++ policySegment) tenant policy tokenEndpoint)
      | _ => .error (.noPolicyInPath url)
    else if host.endsWith policyHostSuffix then
      match rest with
      | policy :: _ => .ok (ofPolicy base first policy tokenEndpoint)
      | _ => .error (.noPolicyOnHost url)
    else
      .ok { canonicalUrl := base ++ "/" ++ first, tenant := some first, tokenEndpoint }

/-- Reads an authority URL, with blanks around it or not. -/
def ofUrl (url : String) (tokenEndpoint : Option String) : Except Failure Authority :=
  if url.isEmpty then .error (.configuration .emptyAuthorityUrl)
  else match Url.parse (Text.trim url) with
    | .error fault => .error (.url fault)
    | .ok parsed =>
      if parsed.scheme ≠ "https" ∨ parsed.netloc.isEmpty then
        .error (.configuration (.notAbsoluteHttps url))
      else (ofSegments url parsed.host parsed.segments tokenEndpoint).mapError .configuration

end Authority

end TokenEndpoint
