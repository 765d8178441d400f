import TokenEndpoint.Fields
import TokenEndpoint.Text.Blank
import TokenEndpoint.Text.Letter
import TokenEndpoint.Text.Utf8
/-!
The form encoding of a request body: `name=value` pairs joined by `&`, the octets of names and values
percent-encoded, a space written as `+`. A lone surrogate has no octets, so a value that holds one is
not written.

Reading is lenient: pieces that are empty are dropped, a piece without `=` is a name with an empty
value, a `%` without two hexadecimal digits stands for itself, and ill-formed octets give U+FFFD.
-/

namespace TokenEndpoint.Form

/-! ## 1. Writing -/

/-- Octets that stand for themselves: ASCII letters, digits, and `_ . - ~`. -/
def isUnreserved (b : UInt8) : Bool :=
  (0x30 ≤ b && b ≤ 0x39) || (0x41 ≤ b && b ≤ 0x5a) || (0x61 ≤ b && b ≤ 0x7a) ||
    b == 0x5f || b == 0x2e || b == 0x2d || b == 0x7e

/-- An upper-case hexadecimal digit. -/
def hexDigit (n : Nat) : Char :=
  if n < 10 then Char.ofNat (48 + n) else Char.ofNat (55 + n)

def encodeOctet (b : UInt8) : List Char :=
  if isUnreserved b then [Char.ofNat b.toNat]
  else if b = 0x20 then ['+']
  else ['%', hexDigit (b.toNat / 16), hexDigit (b.toNat % 16)]

def encodeText (s : List Char) : List Char :=
  (Utf8.encode s).flatMap encodeOctet

/-- One text of a form, as a string. -/
def escape (s : String) : String :=
  String.ofList (encodeText s.toList)

def encodePair (name value : String) : List Char :=
  encodeText name.toList ++ '=' :: encodeText value.toList

/-- The pairs of a form in order. -/
def encodePairs (pairs : List (String × String)) : String :=
  String.ofList (Text.joinWith ['&'] (pairs.map fun (name, value) => encodePair name value))

/-- Pairs whose values are strings, else the fault of the first value that is none. -/
def plainPairs (pairs : List (String × Text)) : Except EncodeFault (List (String × String)) :=
  pairs.mapM fun (name, value) => value.plain.map fun s => (name, s)

/-! ## 2. Percent-decoding -/

def hexValue? (c : Char) : Option Nat :=
  if '0' ≤ c ∧ c ≤ '9' then some (c.toNat - 48)
  else if 'a' ≤ c ∧ c ≤ 'f' then some (c.toNat - 87)
  else if 'A' ≤ c ∧ c ≤ 'F' then some (c.toNat - 55)
  else none

/-- The octets of a run of ASCII characters. -/
def octets : List Char → List UInt8
  | '%' :: a :: b :: r =>
    match hexValue? a, hexValue? b with
    | some x, some y => .ofNat (x * 16 + y) :: octets r
    | _, _ => 0x25 :: octets (a :: b :: r)
  | c :: r => .ofNat c.toNat :: octets r
  | [] => []

/-- Decodes each maximal run of ASCII characters by itself; `run` holds the present one, last
character first. Other characters stand for themselves. -/
def decodeRuns (run : List Char) : List Char → List Char
  | [] => Utf8.decodeLossy (octets run.reverse)
  | c :: r =>
    if c.toNat < 0x80 then decodeRuns (c :: run) r
    else Utf8.decodeLossy (octets run.reverse) ++ c :: decodeRuns [] r

def decodeText (s : List Char) : String :=
  String.ofList (decodeRuns [] (s.map fun c => if c = '+' then ' ' else c))

/-! ## 3. Reading -/

def decodePair (piece : List Char) : String × String :=
  let (name, value) := Text.cut '=' piece
  (decodeText name, decodeText (value.getD []))

/-- The pairs of a form in order. -/
def decodePairs (body : String) : List (String × String) :=
  ((Text.splitOn '&' body.toList).filter (fun piece => !piece.isEmpty)).map decodePair

/-- Adds a value to the end of a name's values; a new name comes last. -/
def addValue (fields : Fields String (List String)) (name value : String) :
    Fields String (List String) :=
  fields.set name ((fields.get? name).getD [] ++ [value])

/-- The values of each name, in the order of their names' first pairs. -/
def group (pairs : List (String × String)) : Fields String (List String) :=
  pairs.foldl (fun fields (name, value) => addValue fields name value) []

def decode (body : String) : Fields String (List String) :=
  group (decodePairs body)

end TokenEndpoint.Form
