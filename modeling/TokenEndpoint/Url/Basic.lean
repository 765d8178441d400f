import TokenEndpoint.Text.Blank
import TokenEndpoint.Text.Lowercase
import TokenEndpoint.Text.Quoted
import TokenEndpoint.Url.Address
import TokenEndpoint.Url.Compatibility
/-!
The parts of a URL. Reading drops spaces and control characters before the text and every tab, line
feed and carriage return in it. It refuses a network location whose brackets do not enclose an
address, or whose compatibility form would be split differently (`Url.Fault`).
-/

namespace TokenEndpoint

/-- What a URL is split into. `path` is without the parameters of its last segment. -/
structure Url where
  scheme : String
  netloc : String
  path : String
  query : String
  fragment : String
  deriving DecidableEq, Repr

namespace Url

inductive Fault where
  | brackets
  | futureAddress
  | notAnAddress (host : String)
  | bracketedIPv4
  | hiddenDelimiter (netloc : String)
  deriving DecidableEq, Repr

def Fault.message : Fault → String
  | .brackets => "Invalid IPv6 URL"
  | .futureAddress => "IPvFuture address is invalid"
  | .notAnAddress host => Text.quoted host ++ " does not appear to be an IPv4 or IPv6 address"
  | .bracketedIPv4 => "An IPv4 address cannot be in brackets"
  | .hiddenDelimiter netloc =>
    "netloc '" ++ netloc ++ "' contains invalid characters under NFKC normalization"

/-! ## 1. The scheme -/

/-- The text without what no URL keeps. -/
def clean (s : List Char) : List Char :=
  (s.dropWhile (·.toNat ≤ 0x20)).filter fun c => c != '\t' && c != '\n' && c != '\r'

def isSchemeChar (c : Char) : Bool :=
  c.isAlphanum || c == '+' || c == '-' || c == '.'

/-- The scheme, lower-cased, and the rest after its colon. -/
def splitScheme (s : List Char) : List Char × List Char :=
  match Text.cut ':' s with
  | (c :: r, some rest) =>
    if c.isAlpha && r.all isSchemeChar then ((c :: r).map Char.toLower, rest) else ([], s)
  | _ => ([], s)

/-! ## 2. The network location -/

def isNetlocEnd (c : Char) : Bool :=
  c == '/' || c == '?' || c == '#'

def splitNetloc (s : List Char) : List Char × List Char :=
  match s with
  | '/' :: '/' :: r => r.span (fun c => !isNetlocEnd c)
  | _ => ([], s)

/-- A host that begins with `v` names the version of its address. -/
def checkBracketedHost (host : List Char) : Except Fault Unit :=
  match host with
  | 'v' :: r =>
    match Text.cut '.' r with
    | (version, some (_ :: _)) =>
      if !version.isEmpty && version.all isHexDigit then .ok () else .error .futureAddress
    | _ => .error .futureAddress
  | _ =>
    if isIPv4 host then .error .bracketedIPv4
    else if isIPv6 host then .ok ()
    else .error (.notAnAddress (String.ofList host))

/-- Brackets may enclose only the whole host; a port may follow. -/
def checkBrackets (netloc : List Char) : Except Fault Unit :=
  if netloc.contains '[' != netloc.contains ']' then .error .brackets
  else if !netloc.contains '[' then .ok ()
  else
    let (_, hostAndPort) := Text.cutLast '@' netloc
    match Text.cut '[' hostAndPort with
    | (before, some bracketed) =>
      let (host, port) := Text.cut ']' bracketed
      let port := port.getD []
      if !before.isEmpty then .error .brackets
      else if !port.isEmpty && port.head? != some ':' then .error .brackets
      else checkBracketedHost host
    | (_, none) => checkBracketedHost (Text.cut ':' hostAndPort).1

def checkDelimiters (netloc : List Char) : Except Fault Unit :=
  if netloc.any hidesDelimiter then .error (.hiddenDelimiter (String.ofList netloc)) else .ok ()

/-! ## 3. The rest -/

/-- The schemes whose last path segment has parameters. -/
def schemesWithParameters : List String :=
  ["", "ftp", "hdl", "prospero", "http", "imap", "https", "shttp", "rtsp", "rtspu", "sip", "sips",
    "mms", "sftp", "tel"]

/-- The path without the parameters after a `;` in its last segment. -/
def withoutParameters (path : List Char) : List Char :=
  match Text.cutLast '/' path with
  | (none, last) => (Text.cut ';' last).1
  | (some before, last) => before ++ '/' :: (Text.cut ';' last).1

def parseChars (s : List Char) : Except Fault Url := do
  let (scheme, rest) := splitScheme (clean s)
  let (netloc, rest) := splitNetloc rest
  checkBrackets netloc
  let (rest, fragment) := Text.cut '#' rest
  let (path, query) := Text.cut '?' rest
  checkDelimiters netloc
  let scheme := String.ofList scheme
  let path := if schemesWithParameters.contains scheme then withoutParameters path else path
  return { scheme
           netloc := String.ofList netloc
           path := String.ofList path
           query := String.ofList (query.getD [])
           fragment := String.ofList (fragment.getD []) }

def parse (s : String) : Except Fault Url :=
  parseChars s.toList

/-- The path's segments that are not empty. -/
def segments (url : Url) : List String :=
  ((Text.splitOn '/' url.path.toList).filter (fun p => !p.isEmpty)).map String.ofList

/-- The lower-cased network location. -/
def host (url : Url) : String :=
  Text.lower url.netloc

end Url

end TokenEndpoint
