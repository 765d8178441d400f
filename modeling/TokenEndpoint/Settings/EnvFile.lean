import TokenEndpoint.Fields
import TokenEndpoint.Text.Blank
/-!
The text of a `.env` file: one `NAME=value` binding a line, perhaps after the word `export`. A name may
stand in single quotes; a value may stand in single or double quotes, then spans lines and has
escapes; without quotes a `#` after a blank begins a comment. A line that is no binding is passed over.
In a value, a name in braces after a dollar sign stands for a variable, with an optional default
after `:-`.
-/

namespace TokenEndpoint.EnvFile

/-! ## 1. Lines and blanks -/

def isLineEnd (c : Char) : Bool := c == '\n' || c == '\r'

/-- A blank inside a line. -/
def isInlineBlank (c : Char) : Bool := Text.isBlank c && !isLineEnd c

def skipInline (s : List Char) : List Char := s.dropWhile isInlineBlank

/-- Every line end as one line feed. -/
def normalizeLineEnds : List Char → List Char
  | '\r' :: '\n' :: r => '\n' :: normalizeLineEnds r
  | '\r' :: r => '\n' :: normalizeLineEnds r
  | c :: r => c :: normalizeLineEnds r
  | [] => []

/-- What follows the line end, if nothing but blanks stands before it. -/
def endOfLine? (s : List Char) : Option (List Char) :=
  match skipInline s with
  | [] => some []
  | c :: r => if isLineEnd c then some r else none

def nextLine (s : List Char) : List Char :=
  (s.dropWhile (fun c => !isLineEnd c)).drop 1

/-- What follows a comment, if there is one. -/
def skipComment (s : List Char) : List Char :=
  match skipInline s with
  | '#' :: r => r.dropWhile (fun c => !isLineEnd c)
  | _ => s

/-- A comment after at least one blank. -/
def startsComment (s : List Char) : Bool :=
  match s with
  | c :: r => isInlineBlank c && (skipInline r).head? == some '#'
  | [] => false

/-! ## 2. Names and values -/

/-- What follows the word `export` and the blanks after it, if they are there. -/
def skipExport (s : List Char) : List Char :=
  match s with
  | 'e' :: 'x' :: 'p' :: 'o' :: 'r' :: 't' :: c :: r => if isInlineBlank c then skipInline r else s
  | _ => s

/-- A name, none on a comment line, and the rest; nothing at all where no name can be read. -/
def readName? (s : List Char) : Option (Option (List Char) × List Char) :=
  match s with
  | '#' :: _ => some (none, s)
  | '\'' :: r =>
    match r.span (· != '\'') with
    | ([], _) => none
    | (name, '\'' :: rest) => some (some name, rest)
    | _ => none
  | _ =>
    match s.span (fun c => c != '=' && c != '#' && !Text.isBlank c) with
    | ([], _) => none
    | (name, rest) => some (some name, rest)

/-- The letters up to the closing quote, and the rest. A backslash and the letter after it belong
together, so that letter closes nothing. -/
def spanQuoted (quote : Char) : List Char → Option (List Char × List Char)
  | [] => none
  | '\\' :: c :: r => (spanQuoted quote r).map fun (v, rest) => ('\\' :: c :: v, rest)
  | c :: r => if c = quote then some ([], r)
    else (spanQuoted quote r).map fun (v, rest) => (c :: v, rest)

/-- What a backslash and a character stand for in double quotes. -/
def doubleQuoteEscape? : Char → Option Char
  | '\\' => some '\\'
  | '\'' => some '\''
  | '"' => some '"'
  | 'a' => some '\x07'
  | 'b' => some '\x08'
  | 'f' => some '\x0c'
  | 'n' => some '\n'
  | 'r' => some '\r'
  | 't' => some '\t'
  | 'v' => some '\x0b'
  | _ => none

def singleQuoteEscape? : Char → Option Char
  | '\\' => some '\\'
  | '\'' => some '\''
  | _ => none

/-- Resolves the escapes; a backslash before another character stands for itself. -/
def unescape (escape? : Char → Option Char) : List Char → List Char
  | '\\' :: c :: r =>
    match escape? c with
    | some x => x :: unescape escape? r
    | none => '\\' :: unescape escape? (c :: r)
  | c :: r => c :: unescape escape? r
  | [] => []

/-- A bare value up to a comment, without the blanks at its end. -/
def cutComment : List Char → List Char
  | [] => []
  | c :: r =>
    if Text.isBlank c && (r.dropWhile Text.isBlank).head? == some '#' then [] else c :: cutComment r

def readValue? (s : List Char) : Option (List Char × List Char) :=
  match s with
  | '\'' :: r => (spanQuoted '\'' r).map fun (v, rest) => (unescape singleQuoteEscape? v, rest)
  | '"' :: r => (spanQuoted '"' r).map fun (v, rest) => (unescape doubleQuoteEscape? v, rest)
  | _ =>
    let (part, rest) := s.span (fun c => !isLineEnd c)
    some (Text.trimEndChars (cutComment part), rest)

/-! ## 3. Bindings -/

/-- A name with its value; none if the line has no `=`. -/
abbrev Binding := List Char × Option (List Char)

/-- A text as it stood where something could not be read. -/
abbrev Stuck := List Char

/-- The binding at the start of a text, if there is one, and the rest. -/
def readBinding (s : List Char) : Except Stuck (Option Binding × List Char) := do
  let s := skipExport s
  let (name, r) ← (readName? s).elim (.error s) .ok
  let r := skipInline r
  let (value, r) ← match r with
    | '=' :: t =>
      if startsComment t then .ok (some [], t)
      else
        let t := skipInline t
        (readValue? t).elim (.error t) fun (v, rest) => .ok (some v, rest)
    | _ => .ok (none, r)
  let r := skipComment r
  let rest ← (endOfLine? r).elim (.error r) .ok
  return (name.map fun n => (n, value), rest)

/-- The bindings in order; a text has at most `lines` of them. Reading goes on with the line after the
place that could not be read. -/
def readBindings : (lines : Nat) → List Char → List Binding
  | 0, _ => []
  | lines + 1, s =>
    match s.dropWhile Text.isBlank with
    | [] => []
    | t =>
      match readBinding t with
      | .ok (binding, rest) => binding.toList ++ readBindings lines rest
      | .error stuck => readBindings lines (nextLine stuck)

/-! ## 4. Variables -/

/-- The name and the default of a variable, and the rest after its closing brace. -/
def readVariable? (s : List Char) : Option (List Char × List Char × List Char) :=
  let (name, r) := s.span (fun c => c != '\x7d' && c != ':')
  match r with
  | '\x7d' :: rest => some (name, [], rest)
  | ':' :: '-' :: r =>
    match r.span (· != '\x7d') with
    | (fallback, _ :: rest) => some (name, fallback, rest)
    | _ => none
  | _ => none

/-- Puts values in place of variables; a value has at most `budget` pieces. -/
def interpolate (lookup : String → Option String) : (budget : Nat) → List Char → List Char
  | 0, s => s
  | budget + 1, s =>
    match s with
    | '$' :: '\x7b' :: r =>
      match readVariable? r with
      | some (name, fallback, rest) =>
        ((lookup (String.ofList name)).getD (String.ofList fallback)).toList ++
          interpolate lookup budget rest
      | none => '$' :: interpolate lookup budget ('\x7b' :: r)
    | c :: r => c :: interpolate lookup budget r
    | [] => []

/-- The variables seen so far stand before those of the environment. A binding without a value reads
as an empty text. -/
def lookup (bound : Fields String (Option String)) (environment : List (String × String))
    (name : String) : Option String :=
  match bound.get? name with
  | some value => some (value.getD "")
  | none => (Fields.ofPairs environment).get? name

/-- The text without a byte order mark at its start. -/
def withoutMark : List Char → List Char
  | '\ufeff' :: r => r
  | s => s

/-- All bindings, variables resolved; the last binding of a name counts. -/
def read (environment : List (String × String)) (text : String) : Fields String (Option String) :=
  let s := normalizeLineEnds (withoutMark text.toList)
  (readBindings (s.length + 1) s).foldl (fun bound (name, value) =>
    bound.set (String.ofList name)
      (value.map fun v => String.ofList (interpolate (lookup bound environment) (v.length + 1) v))) []

end TokenEndpoint.EnvFile
