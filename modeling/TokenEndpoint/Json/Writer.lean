import TokenEndpoint.Decimal.Shortest
import TokenEndpoint.Json.Basic
import TokenEndpoint.Text.Quoted
/-!
Two texts of a JSON value. `compact` is JSON again: ASCII only, without blanks between its parts.
`display` is the text that a message shows: words with capitals, texts quoted inside lists and objects
and bare at the top.
-/

namespace TokenEndpoint.Json

/-! ## 1. Compact JSON -/

def unitEscape (n : Nat) : List Char :=
  '\\' :: 'u' :: Text.hexDigits 4 n

/-- The escapes of a character: one 16-bit unit, or two for a character above U+FFFF. -/
def charEscape (c : Char) : List Char :=
  if c.toNat < 0x10000 then unitEscape c.toNat
  else
    let n := c.toNat - 0x10000
    unitEscape (0xd800 + n / 1024) ++ unitEscape (0xdc00 + n % 1024)

def compactChar (c : Char) : List Char :=
  if c = '"' then ['\\', '"']
  else if c = '\\' then ['\\', '\\']
  else if c = '\n' then ['\\', 'n']
  else if c = '\r' then ['\\', 'r']
  else if c = '\t' then ['\\', 't']
  else if c = '\x08' then ['\\', 'b']
  else if c = '\x0c' then ['\\', 'f']
  else if 0x20 ≤ c.toNat ∧ c.toNat ≤ 0x7e then [c]
  else charEscape c

def compactLetter : Letter → List Char
  | .plain c => compactChar c
  | .lone n => unitEscape (0xd800 + n.val)

def compactText (t : Text) : List Char :=
  '"' :: t.flatMap compactLetter ++ ['"']

/-- Numbers that have no finite value are written as words. -/
def numberLayout : Decimal.Layout :=
  { Decimal.Layout.plain with infinity := "Infinity", nan := "NaN" }

mutual

def compactChars : Json → List Char
  | null => "null".toList
  | bool b => (if b then "true" else "false").toList
  | int i => (toString i).toList
  | float x => (numberLayout.render x).toList
  | string t => compactText t
  | array items => '[' :: compactItems items
  | object members => '\x7b' :: compactMembers members

/-- The items with the closing bracket. -/
def compactItems : List Json → List Char
  | [] => [']']
  | [v] => compactChars v ++ [']']
  | v :: r => compactChars v ++ ',' :: compactItems r

/-- The members with the closing brace. -/
def compactMembers : List (Text × Json) → List Char
  | [] => ['\x7d']
  | [(k, v)] => compactText k ++ ':' :: compactChars v ++ ['\x7d']
  | (k, v) :: r => compactText k ++ ':' :: compactChars v ++ ',' :: compactMembers r

end

def compact (v : Json) : String :=
  String.ofList (compactChars v)

/-! ## 2. Display -/

mutual

/-- A value as it stands inside a list or an object. -/
def displayInner : Json → String
  | null => "None"
  | bool b => if b then "True" else "False"
  | int i => toString i
  | float x => Decimal.Layout.plain.render x
  | string t => Text.quotedText t
  | array items => "[" ++ displayItems items ++ "]"
  | object members => "\x7b" ++ displayMembers members ++ "\x7d"

def displayItems : List Json → String
  | [] => ""
  | [v] => displayInner v
  | v :: r => displayInner v ++ ", " ++ displayItems r

def displayMembers : List (Text × Json) → String
  | [] => ""
  | [(k, v)] => Text.quotedText k ++ ": " ++ displayInner v
  | (k, v) :: r => Text.quotedText k ++ ": " ++ displayInner v ++ ", " ++ displayMembers r

end

/-- A value as it stands by itself, letter by letter. -/
def displayLetters : Json → Text
  | string t => t
  | v => .ofString (displayInner v)

def display (v : Json) : String :=
  v.displayLetters.toString

end TokenEndpoint.Json
