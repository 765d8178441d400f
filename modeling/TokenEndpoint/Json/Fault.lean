import TokenEndpoint.Decimal.Whole
/-!
Why a JSON text is not read: what can be wrong with it, and where, or that it is nested too deep. Lines
and columns count from one, offsets from zero, all in characters; a line ends at a line feed.
-/

namespace TokenEndpoint.Json

inductive Problem where
  | byteOrderMark
  | value
  | propertyName
  | colon
  | comma
  | extraData
  | unterminatedString
  | controlCharacter
  | escape
  | unicodeEscape
  deriving DecidableEq, Repr

def Problem.message : Problem → String
  | .byteOrderMark => "Unexpected UTF-8 BOM (decode using utf-8-sig)"
  | .value => "Expecting value"
  | .propertyName => "Expecting property name enclosed in double quotes"
  | .colon => "Expecting ':' delimiter"
  | .comma => "Expecting ',' delimiter"
  | .extraData => "Extra data"
  | .unterminatedString => "Unterminated string starting at"
  | .controlCharacter => "Invalid control character at"
  | .escape => "Invalid \\escape"
  | .unicodeEscape => "Invalid \\uXXXX escape"

inductive Fault where
  | syntactic (problem : Problem) (line column offset : Nat)
  /-- An integer of more digits than are read. -/
  | tooManyDigits (count : Nat)
  deriving DecidableEq, Repr

def Fault.message : Fault → String
  | .syntactic problem line column offset =>
    problem.message ++ ": line " ++ toString line ++ " column " ++ toString column ++ " (char " ++
      toString offset ++ ")"
  | .tooManyDigits count =>
    "Exceeds the limit (" ++ toString Decimal.digitLimit ++
      " digits) for integer string conversion: value has " ++ toString count ++
      " digits; use sys.set_int_max_str_digits() to increase the limit"

/-- The fault at an offset of a text. -/
def Fault.at (text : List Char) (problem : Problem) (offset : Nat) : Fault :=
  let before := text.take offset
  .syntactic problem (before.count '\n' + 1)
    ((before.reverse.takeWhile (· != '\n')).length + 1) offset

/-! ## Nesting -/

/-- The values that hold other values. -/
inductive Container where
  | array
  | object
  deriving DecidableEq, Repr

def Container.name : Container → String
  | .array => "array"
  | .object => "object"

/-- Why a reader stops: at a fault of the text, or at a list or an object for which it has no room left.
The second is no fault of the text and is never taken for one. -/
inductive Halt where
  | fault (fault : Fault)
  | tooDeep (container : Container)
  deriving DecidableEq, Repr

/-- How many lists and objects a reader may open one inside another, for each of the texts that are
read. A reader shares its room with the calls around it, so every text has its own. -/
structure Room where
  /-- The body of a response. -/
  body : Nat := 980
  clientInfo : Nat := 970
  /-- The first segment of an ID token. -/
  header : Nat := 970
  /-- The second segment of an ID token. -/
  payload : Nat := 970
  deriving DecidableEq, Repr

end TokenEndpoint.Json
