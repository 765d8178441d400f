import TokenEndpoint.Text.Letter
import TokenEndpoint.Text.Printable
/-!
Quoted text, the form in which messages show a value: between single quotes, or between double
quotes if the text holds a single quote and no double quote; a backslash, the chosen quote and
every character that is not printable are escaped.
-/

namespace TokenEndpoint.Text

/-! ## 1. Hexadecimal digits -/

def hexDigit (n : Nat) : Char :=
  if n < 10 then Char.ofNat (48 + n) else Char.ofNat (87 + n)

/-- The last `width` lower-case hexadecimal digits of a number. -/
def hexDigits : (width : Nat) → Nat → List Char
  | 0, _ => []
  | width + 1, n => hexDigits width (n / 16) ++ [hexDigit (n % 16)]

/-! ## 2. One letter -/

/-- The shortest numeric escape of a code point. -/
def numericEscape (n : Nat) : List Char :=
  if n < 0x100 then '\\' :: 'x' :: hexDigits 2 n
  else if n < 0x10000 then '\\' :: 'u' :: hexDigits 4 n
  else '\\' :: 'U' :: hexDigits 8 n

def quoteChar (quote c : Char) : List Char :=
  if c = quote ∨ c = '\\' then ['\\', c]
  else if c = '\n' then ['\\', 'n']
  else if c = '\r' then ['\\', 'r']
  else if c = '\t' then ['\\', 't']
  else if isPrintable c then [c]
  else numericEscape c.toNat

def quoteLetter (quote : Char) : Letter → List Char
  | .plain c => quoteChar quote c
  | .lone n => numericEscape (0xd800 + n.val)

/-! ## 3. A text -/

def chooseQuote (t : Text) : Char :=
  if t.contains (.plain '\'') && !t.contains (.plain '"') then '"' else '\''

def quotedText (t : Text) : String :=
  let q := chooseQuote t
  String.ofList (q :: t.flatMap (quoteLetter q) ++ [q])

def quoted (s : String) : String :=
  quotedText (ofString s)

end TokenEndpoint.Text
