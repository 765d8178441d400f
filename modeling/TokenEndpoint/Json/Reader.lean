import TokenEndpoint.Json.Basic
import TokenEndpoint.Json.Fault
/-!
Reading a JSON text. Besides the standard grammar the reader takes `NaN`, `Infinity` and `-Infinity`,
and keeps half of a surrogate pair that stands alone in an escape. Of a repeated member the first
place and the last value count.

Lists and objects are nested only as deep as the reader has room. Where it has none left it gives up at
the opening bracket, whatever stands behind it; a fault that stands before that bracket is found first.
That a fault so deep inside takes room of its own to be put into words is left out.

While a text is read a fault is located by the number of characters that were left (`Stop`);
`Json.read` turns it into a line, a column and an offset.
-/

namespace TokenEndpoint.Json

inductive Stop where
  | here (problem : Problem) (left : Nat)
  | tooManyDigits (count : Nat)
  | tooDeep (container : Container)
  deriving DecidableEq, Repr

/-- A fault at the start of the given rest of the text. -/
def stop {α : Type} (problem : Problem) (rest : List Char) : Except Stop α :=
  .error (.here problem rest.length)

/-! ## 1. Blanks -/

def isSpace (c : Char) : Bool :=
  c == ' ' || c == '\t' || c == '\n' || c == '\r'

def skipSpace (s : List Char) : List Char :=
  s.dropWhile isSpace

/-! ## 2. Strings -/

def hexValue? (c : Char) : Option Nat :=
  if '0' ≤ c ∧ c ≤ '9' then some (c.toNat - 48)
  else if 'a' ≤ c ∧ c ≤ 'f' then some (c.toNat - 87)
  else if 'A' ≤ c ∧ c ≤ 'F' then some (c.toNat - 55)
  else none

/-- The 16-bit unit that four hexadecimal digits write. -/
def hexUnit? (a b c d : Char) : Option UInt16 := do
  let w ← hexValue? a
  let x ← hexValue? b
  let y ← hexValue? c
  let z ← hexValue? d
  return .ofNat (w * 4096 + x * 256 + y * 16 + z)

/-- The character that a backslash and this character stand for. -/
def simpleEscape? : Char → Option Char
  | '"' => some '"'
  | '\\' => some '\\'
  | '/' => some '/'
  | 'b' => some '\x08'
  | 'f' => some '\x0c'
  | 'n' => some '\n'
  | 'r' => some '\r'
  | 't' => some '\t'
  | _ => none

def prepend (l : Letter) : Text × List Char → Text × List Char :=
  fun (t, rest) => (l :: t, rest)

/-- The letters up to the closing quote, and the rest after it. `opening` is the text from the opening
quote on. A fault in an escape of four digits stands at its `u`; one more character must follow such
an escape. -/
def readLetters (opening : List Char) : List Char → Except Stop (Text × List Char)
  | [] => stop .unterminatedString opening
  | '"' :: r => .ok ([], r)
  | ['\\'] => stop .unterminatedString opening
  | '\\' :: 'u' :: a :: b :: c :: d :: e :: r =>
    match hexUnit? a b c d with
    | some u => (readLetters opening (e :: r)).map (prepend (.ofUnit u))
    | none => stop .unicodeEscape ('u' :: a :: b :: c :: d :: e :: r)
  | '\\' :: 'u' :: r => stop .unicodeEscape ('u' :: r)
  | '\\' :: c :: r =>
    match simpleEscape? c with
    | some x => (readLetters opening r).map (prepend (.plain x))
    | none => stop .escape ('\\' :: c :: r)
  | c :: r =>
    if c.toNat < 0x20 then stop .controlCharacter (c :: r)
    else (readLetters opening r).map (prepend (.plain c))

/-- A string after its opening quote, halves of pairs joined. -/
def readString (r : List Char) : Except Stop (Text × List Char) :=
  (readLetters ('"' :: r) r).map fun (t, rest) => (Text.joinPairs t, rest)

/-! ## 3. Numbers -/

/-- The leading decimal digits and the rest. -/
def takeDigits (s : List Char) : List Char × List Char :=
  s.span Char.isDigit

def digitsValue (digits : List Char) : Nat :=
  digits.foldl (fun n c => n * 10 + (c.toNat - 48)) 0

/-- The digits of the integer part: a zero, or digits that begin with no zero. -/
def integerPart? : List Char → Option (List Char × List Char)
  | '0' :: r => some (['0'], r)
  | s => match takeDigits s with
    | ([], _) => none
    | parts => some parts

/-- The digits after a point; a point without a digit after it is left alone. -/
def fractionPart (s : List Char) : List Char × List Char :=
  match s with
  | '.' :: r => match takeDigits r with
    | ([], _) => ([], s)
    | parts => parts
  | _ => ([], s)

/-- The sign and the digits of an exponent. -/
def exponentSign : List Char → Bool × List Char
  | '-' :: r => (true, r)
  | '+' :: r => (false, r)
  | r => (false, r)

/-- The exponent, if the letter for it has a digit after it and its sign. -/
def exponentPart (s : List Char) : Option Int × List Char :=
  match s with
  | c :: r =>
    if c == 'e' || c == 'E' then
      let (negative, r) := exponentSign r
      match takeDigits r with
      | ([], _) => (none, s)
      | (digits, rest) =>
        (some (if negative then -(digitsValue digits : Int) else digitsValue digits), rest)
    else (none, s)
  | [] => (none, s)

/-- A number after its sign. -/
def readNumber? (negative : Bool) (s : List Char) : Option (Except Stop (Json × List Char)) :=
  (integerPart? s).map fun (whole, r) =>
    let (fraction, r) := fractionPart r
    let (exponent, rest) := exponentPart r
    if fraction.isEmpty && exponent.isNone then
      if Decimal.digitLimit < whole.length then .error (.tooManyDigits whole.length)
      else
        let n : Int := digitsValue whole
        .ok (.int (if negative then -n else n), rest)
    else
      .ok (.float (Decimal.nearest negative (digitsValue (whole ++ fraction))
        (exponent.getD 0 - fraction.length)), rest)

/-! ## 4. Values -/

/-- The rest after a word. -/
def after? : (word s : List Char) → Option (List Char)
  | [], s => some s
  | w :: ws, c :: r => if w = c then after? ws r else none
  | _ :: _, [] => none

/-- A value that is one word. -/
def readWord? (s : List Char) : Option (Json × List Char) :=
  let words : List (String × Json) :=
    [("null", .null), ("true", .bool true), ("false", .bool false), ("NaN", .float Decimal.nan),
      ("Infinity", .float (Decimal.infinity false)), ("-Infinity", .float (Decimal.infinity true))]
  words.findSome? fun (word, v) => (after? word.toList s).map fun r => (v, r)

def readScalar (s : List Char) : Except Stop (Json × List Char) :=
  match readWord? s with
  | some found => .ok found
  | none =>
    let number := match s with
      | '-' :: r => readNumber? true r
      | _ => readNumber? false s
    number.getD (stop .value s)

/-- The items of a list up to its closing bracket. `read` reads one item; there are no more items than
`budget`. -/
def readItems (read : List Char → Except Stop (Json × List Char)) :
    (budget : Nat) → List Char → Except Stop (List Json × List Char)
  | 0, s => stop .value s
  | budget + 1, s => do
    let (v, r) ← read s
    match skipSpace r with
    | ']' :: rest => .ok ([v], rest)
    | ',' :: rest => do
      let (vs, rest) ← readItems read budget (skipSpace rest)
      .ok (v :: vs, rest)
    | rest => stop .comma rest

/-- The members of an object up to its closing brace. -/
def readMembers (read : List Char → Except Stop (Json × List Char)) :
    (budget : Nat) → List Char → Except Stop (List (Text × Json) × List Char)
  | 0, s => stop .propertyName s
  | budget + 1, s =>
    match s with
    | '"' :: r => do
      let (key, r) ← readString r
      match skipSpace r with
      | ':' :: r => do
        let (v, r) ← read (skipSpace r)
        match skipSpace r with
        | '\x7d' :: rest => .ok ([(key, v)], rest)
        | ',' :: rest => do
          let (more, rest) ← readMembers read budget (skipSpace rest)
          .ok ((key, v) :: more, rest)
        | rest => stop .comma rest
      | rest => stop .colon rest
    | _ => stop .propertyName s

/-- A list or an object after its opening bracket. -/
def readInside (read : List Char → Except Stop (Json × List Char)) :
    Container → List Char → Except Stop (Json × List Char)
  | .array, r =>
    match skipSpace r with
    | ']' :: rest => .ok (.array [], rest)
    | r => (readItems read (r.length + 1) r).map fun (vs, rest) => (.array vs, rest)
  | .object, r =>
    match skipSpace r with
    | '\x7d' :: rest => .ok (.object [], rest)
    | r => (readMembers read (r.length + 1) r).map
        fun (ms, rest) => (.object (Fields.ofPairs ms), rest)

/-- A value and the rest after it; `inside` reads a list or an object after its opening bracket. -/
def readOpening (inside : Container → List Char → Except Stop (Json × List Char)) :
    List Char → Except Stop (Json × List Char)
  | '"' :: r => (readString r).map fun (t, rest) => (.string t, rest)
  | '[' :: r => inside .array r
  | '\x7b' :: r => inside .object r
  | s => readScalar s

/-- A value and the rest after it. So many lists and objects may be opened one inside another as there is
room. -/
def readValue : (room : Nat) → List Char → Except Stop (Json × List Char)
  | 0, s => readOpening (fun container _ => .error (.tooDeep container)) s
  | room + 1, s => readOpening (readInside (readValue room)) s

/-! ## 5. A whole text -/

/-- A value with nothing but blanks around it. -/
def readAll (room : Nat) (s : List Char) : Except Stop Json := do
  match s with
  | '\ufeff' :: _ => stop .byteOrderMark s
  | _ =>
    let (v, r) ← readValue room (skipSpace s)
    match skipSpace r with
    | [] => .ok v
    | rest => stop .extraData rest

def Stop.toHalt (text : List Char) : Stop → Halt
  | .here problem left => .fault (.at text problem (text.length - left))
  | .tooManyDigits count => .fault (.tooManyDigits count)
  | .tooDeep container => .tooDeep container

def readChars (room : Nat) (s : List Char) : Except Halt Json :=
  (readAll room s).mapError (Stop.toHalt s)

def read (room : Nat) (s : String) : Except Halt Json :=
  readChars room s.toList

end TokenEndpoint.Json
