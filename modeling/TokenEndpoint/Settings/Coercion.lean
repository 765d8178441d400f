import TokenEndpoint.Failure
import TokenEndpoint.Json.Basic
import TokenEndpoint.Text.Blank
/-!
How a given value becomes the truth value, number or text that a field wants. Numbers may be written
as texts; a text is never made from anything else.
-/

namespace TokenEndpoint.Coercion

/-! ## 1. Pieces of number texts -/

/-- The blanks that are cut off a number: the blank characters without the separators U+001C to
U+001F. -/
def isNumberBlank (c : Char) : Bool :=
  Text.isBlank c && !(0x1c ≤ c.toNat && c.toNat ≤ 0x1f)

def trimNumber (s : List Char) : List Char :=
  ((s.dropWhile isNumberBlank).reverse.dropWhile isNumberBlank).reverse

/-- The sign and the rest. -/
def splitSign : List Char → Bool × List Char
  | '-' :: r => (true, r)
  | '+' :: r => (false, r)
  | r => (false, r)

def digitsValue (digits : List Char) : Nat :=
  digits.foldl (fun n c => n * 10 + (c.toNat - 48)) 0

/-- The text without its underscores, if they stand inside it and one at a time. -/
def withoutUnderscores? (s : List Char) : Option (List Char) :=
  let groups := Text.splitOn '_' s
  if 2 ≤ groups.length && groups.all (fun g => !g.isEmpty) then some groups.flatten else none

/-! ## 2. Integers -/

/-- Whether a minus stands in front, and the rest. -/
def splitMinus : List Char → Bool × List Char
  | '-' :: r => (true, r)
  | r => (false, r)

/-- A sign and digits in their strict form: a minus or nothing, no zero before another digit, and
`Decimal.digitLimit` digits at most. The minus is not counted: with one in front as many digits are read
as without. -/
def readStrictInt? (s : List Char) : Option Int :=
  let (negative, digits) := splitMinus s
  if digits.isEmpty || !digits.all Char.isDigit || (1 < digits.length && digits.head? == some '0') ||
      Decimal.digitLimit < digits.length then none
  else
    let n : Int := digitsValue digits
    some (if negative then -n else n)

/-- The part of a text that begins with a zero from where its value begins: zeros and underscores
before a digit or a minus are dropped, and all but one character of them before a point or the end. -/
def skipZeros (last : Char) : List Char → Option (List Char)
  | [] => some [last]
  | c :: r =>
    if c = '0' ∨ c = '_' then skipZeros c r
    else if c = '.' then some (last :: c :: r)
    else if c.isDigit ∨ c = '-' then some (c :: r)
    else none

def withoutZeros? : List Char → Option (List Char)
  | '0' :: r => skipZeros '0' r
  | c :: r => if c.isDigit then some (c :: r) else none
  | [] => none

/-- The text without a point that is followed by zeros and nothing else. -/
def withoutZeroFraction (s : List Char) : List Char :=
  match Text.cut '.' s with
  | (whole, some fraction) => if !fraction.isEmpty && fraction.all (· == '0') then whole else s
  | _ => s

/-- The strict form of an integer that may be written with a plus, zeros in front, zeros after a point
or underscores. -/
def strictForm? (s : List Char) : Option (List Char) := do
  let (negative, r) := splitSign s
  let digits := withoutZeroFraction (← withoutZeros? r)
  let digits := (withoutUnderscores? digits).getD digits
  return if negative then '-' :: digits else digits

/-- Whether an integer in its strict form begins a text and has too many digits, again without the
minus. -/
def beginsOversized (s : List Char) : Bool :=
  let (_, r) := splitMinus s
  r.head? != some '0' && Decimal.digitLimit < (r.takeWhile Char.isDigit).length

/-- Too many digits have a problem of their own only in a text that begins with them; after a blank, a
plus or a zero the text is one that cannot be read. -/
def readInt (s : List Char) : Except FieldProblem Int :=
  if beginsOversized s then .error .oversizedInt
  else
    match (strictForm? (trimNumber s)).bind readStrictInt? with
    | some i => .ok i
    | none => .error .unreadableInt

/-- The first integer that is too large for 64 signed bits. -/
def signedEnd : Int := Nat.pow 2 63

/-- A floating-point number counts if it is an integer between the ends of 64 signed bits, both
excluded. -/
def intOfFloat (x : Float) : Except FieldProblem Int :=
  match Decimal.Binary.ofFloat x with
  | .nan => .error .nonFiniteInt
  | .infinite _ => .error .nonFiniteInt
  | .finite negative m q =>
    match (Decimal.Binary.finite negative m q).integer? with
    | none => .error .fractionalInt
    | some i => if -signedEnd < i ∧ i < signedEnd then .ok i else .error .oversizedInt

def toInt : Json → Except FieldProblem Int
  | .int i => .ok i
  | .bool b => .ok (if b then 1 else 0)
  | .float x => intOfFloat x
  | .string t =>
    match t.chars? with
    | some s => readInt s
    | none => .error .unreadableInt
  | _ => .error .notInt

/-! ## 3. Floating-point numbers -/

/-- The words for numbers that have no finite value, in any case of letters. -/
def readFloatWord? (s : List Char) : Option Float :=
  let (negative, word) := splitSign s
  match String.ofList (word.map Char.toLower) with
  | "inf" => some (Decimal.infinity negative)
  | "infinity" => some (Decimal.infinity negative)
  | "nan" => some Decimal.nan
  | _ => none

/-- The value of an exponent with its sign. -/
def readExponent? (s : List Char) : Option Int :=
  let (negative, digits) := splitSign s
  if !digits.isEmpty && digits.all Char.isDigit then
    some (if negative then -(digitsValue digits : Int) else digitsValue digits)
  else none

/-- A decimal number: digits with or without a point, then perhaps an exponent. -/
def readDecimal? (s : List Char) : Option Float := do
  let (negative, r) := splitSign s
  let (significand, exponent) := Text.cut 'e' (r.map fun c => if c = 'E' then 'e' else c)
  let exponent ← match exponent with
    | none => some 0
    | some e => readExponent? e
  let (whole, fraction) := Text.cut '.' significand
  let fraction := fraction.getD []
  let digits := whole ++ fraction
  if !digits.isEmpty && digits.all Char.isDigit then
    some (Decimal.nearest negative (digitsValue digits) (exponent - fraction.length))
  else none

def readPlainFloat? (s : List Char) : Option Float :=
  (readFloatWord? s).orElse fun _ => readDecimal? s

def readFloat (s : List Char) : Except FieldProblem Float :=
  let found := (readPlainFloat? (trimNumber s)).orElse fun _ =>
    (withoutUnderscores? s).bind readPlainFloat?
  match found with
  | some x => .ok x
  | none => .error .unreadableFloat

/-- An integer counts if the number nearest to it is finite. -/
def floatOfInt (i : Int) : Except FieldProblem Float :=
  let x := Decimal.ofInt i
  match Decimal.Binary.ofFloat x with
  | .finite _ _ _ => .ok x
  | _ => .error .notFloat

def toFloat : Json → Except FieldProblem Float
  | .float x => .ok x
  | .int i => floatOfInt i
  | .bool b => .ok (if b then 1 else 0)
  | .string t => readFloat t.toString.toList
  | _ => .error .notFloat

/-! ## 4. Truth values and texts -/

def trueWords : List String := ["1", "on", "t", "true", "y", "yes"]

def falseWords : List String := ["0", "off", "f", "false", "n", "no"]

def boolOfInt (i : Int) : Except FieldProblem Bool :=
  if i = 0 then .ok false else if i = 1 then .ok true else .error .unreadableBool

/-- A number counts if it is an integer in the range that `intOfFloat` has. -/
def toBool : Json → Except FieldProblem Bool
  | .bool b => .ok b
  | .int i => if -signedEnd ≤ i ∧ i < signedEnd then boolOfInt i else .error .notBool
  | .float x =>
    match intOfFloat x with
    | .ok i => boolOfInt i
    | .error _ => .error .notBool
  | .string t =>
    let word := String.ofList (t.toString.toList.map Char.toLower)
    if trueWords.contains word then .ok true
    else if falseWords.contains word then .ok false
    else .error .unreadableBool
  | _ => .error .notBool

def toText : Json → Except FieldProblem Text
  | .string t => .ok t
  | _ => .error .notText

/-- A text whose lone surrogates nobody asks for. -/
def toPlainText (v : Json) : Except FieldProblem String :=
  (toText v).map Text.toString

end TokenEndpoint.Coercion
