/-!
Base64. `encode` writes groups of three octets as four characters of the standard alphabet and pads
the last group. `decode` is lenient: `-` and `_` count as `+` and `/`, any other character outside
the alphabet is skipped, and a run of `=` that completes a group ends the data.
-/

namespace TokenEndpoint.Base64

/-! ## 1. The alphabet -/

def digit (n : Nat) : Char :=
  if n < 26 then Char.ofNat (65 + n)
  else if n < 52 then Char.ofNat (71 + n)
  else if n < 62 then Char.ofNat (n - 4)
  else if n = 62 then '+' else '/'

/-- The value of a character in either alphabet. -/
def digitValue? (c : Char) : Option Nat :=
  if 'A' ≤ c ∧ c ≤ 'Z' then some (c.toNat - 65)
  else if 'a' ≤ c ∧ c ≤ 'z' then some (c.toNat - 71)
  else if '0' ≤ c ∧ c ≤ '9' then some (c.toNat + 4)
  else if c = '+' ∨ c = '-' then some 62
  else if c = '/' ∨ c = '_' then some 63
  else none

theorem digitValue?_digit : ∀ n < 64, digitValue? (digit n) = some n := by decide

/-! ## 2. Writing -/

def encode : List UInt8 → List Char
  | a :: b :: c :: r =>
    let n := a.toNat * 65536 + b.toNat * 256 + c.toNat
    digit (n / 262144) :: digit (n / 4096 % 64) :: digit (n / 64 % 64) :: digit (n % 64) :: encode r
  | [a, b] =>
    let n := a.toNat * 256 + b.toNat
    [digit (n / 1024), digit (n / 16 % 64), digit (n % 16 * 4), '=']
  | [a] => [digit (a.toNat / 4), digit (a.toNat % 4 * 16), '=', '=']
  | [] => []

/-- A character of the alphabet for URLs and file names. -/
def toUrlAlphabet (c : Char) : Char :=
  if c = '+' then '-' else if c = '/' then '_' else c

def encodeUrl (octets : List UInt8) : List Char :=
  (encode octets).map toUrlAlphabet

/-! ## 3. Reading -/

inductive Fault where
  /-- The data stop inside a group of four. -/
  | padding
  /-- One character is left after the last group; the number counts all characters of the alphabet. -/
  | lonelyCharacter (count : Nat)
  deriving DecidableEq, Repr

def Fault.message : Fault → String
  | .padding => "Incorrect padding"
  | .lonelyCharacter count =>
    "Invalid base64-encoded string: number of data characters (" ++ toString count ++
      ") cannot be 1 more than a multiple of 4"

/-- The octet that the second, third and fourth character of a group complete. -/
def completedOctet (position carried value : Nat) : Option UInt8 :=
  match position with
  | 1 => some (.ofNat (carried * 4 + value / 16))
  | 2 => some (.ofNat (carried * 16 + value / 4))
  | 3 => some (.ofNat (carried * 64 + value))
  | _ => none

/-- The bits of a character that the next octet of its group begins with. -/
def carriedBits (position value : Nat) : Nat :=
  match position with
  | 0 => value
  | 1 => value % 16
  | 2 => value % 4
  | _ => 0

/-- `position` characters of the present group were read, which leave `carried` bits over, then `pads`
signs `=`; `count` octets were written. -/
def decodeFrom (position carried pads count : Nat) : List Char → Except Fault (List UInt8)
  | [] =>
    match position with
    | 0 => .ok []
    | 1 => .error (.lonelyCharacter (count / 3 * 4 + 1))
    | _ => .error .padding
  | c :: r =>
    if c = '=' then
      if 2 ≤ position then
        if 4 ≤ position + pads + 1 then .ok []
        else decodeFrom position carried (pads + 1) count r
      else decodeFrom position carried pads count r
    else match digitValue? c with
      | none => decodeFrom position carried pads count r
      | some value =>
        let next := (position + 1) % 4
        match completedOctet position carried value with
        | none => decodeFrom next (carriedBits position value) 0 count r
        | some octet =>
          (decodeFrom next (carriedBits position value) 0 (count + 1) r).map (octet :: ·)

def decode (s : List Char) : Except Fault (List UInt8) :=
  decodeFrom 0 0 0 0 s

/-- As many `=` as bring the length to a multiple of four. -/
def padding (length : Nat) : List Char :=
  List.replicate ((4 - length % 4) % 4) '='

end TokenEndpoint.Base64
