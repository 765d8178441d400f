import TokenEndpoint.Fields
import TokenEndpoint.Decimal.Binary
import TokenEndpoint.Text.Letter
/-!
JSON values. Integers and floating-point numbers are told apart; the members of an object keep the
order in which their names came first; a text may hold lone surrogates.
-/

namespace TokenEndpoint

inductive Json where
  | null
  | bool (b : Bool)
  | int (i : Int)
  | float (x : Float)
  | string (t : Text)
  | array (items : List Json)
  | object (members : List (Text × Json))
  deriving Inhabited

abbrev JsonObject := Fields Text Json

namespace Json

def ofString (s : String) : Json :=
  .string (Text.ofString s)

def ofOption : Option String → Json
  | some s => ofString s
  | none => .null

/-- The value of a member, none if there is no such member. -/
def member? (members : JsonObject) (name : String) : Option Json :=
  members.get? (Text.ofString name)

/-- The value of a member, null if there is no such member. -/
def member (members : JsonObject) (name : String) : Json :=
  (member? members name).getD .null

/-- What a type fault calls the kind of a value. -/
def kind : Json → String
  | null => "NoneType"
  | bool _ => "bool"
  | int _ => "int"
  | float _ => "float"
  | string _ => "str"
  | array _ => "list"
  | object _ => "dict"

/-- A value counts as given unless it is null, false, a zero, or an empty text, list or object. -/
def isGiven : Json → Bool
  | null => false
  | bool b => b
  | int i => i != 0
  | float x => x != 0
  | string t => !t.isEmpty
  | array items => !items.isEmpty
  | object members => !members.isEmpty

/-- The first of the values that counts as given, else the last. -/
def orElse (a b : Json) : Json :=
  if a.isGiven then a else b

def text? : Json → Option Text
  | string t => some t
  | _ => none

/-! ## Sameness -/

/-- A truth value or a number as a fraction, if it has a finite value. -/
def fraction? : Json → Option (Int × Nat)
  | bool b => some (if b then 1 else 0, 1)
  | int i => some (i, 1)
  | float x => (Decimal.Binary.ofFloat x).fraction?
  | _ => none

/-- Numbers with a finite value are the same if the values are equal. Of the others each is the same as
itself. -/
def sameNumber (a b : Json) : Bool :=
  match a.fraction?, b.fraction? with
  | some (n, d), some (m, e) => n * e == m * d
  | none, none => match a, b with
    | float x, float y => Decimal.Binary.ofFloat x = Decimal.Binary.ofFloat y
    | _, _ => false
  | _, _ => false

mutual

/-- Numbers are the same if their values are equal, whatever their kind; objects, if they have the
same members in any order. -/
def same : Json → Json → Bool
  | null, null => true
  | string s, string t => s == t
  | array xs, array ys => sameItems xs ys
  | object ms, object ns => ms.length == ns.length && sameMembers ms ns
  | a, b => sameNumber a b

def sameItems : List Json → List Json → Bool
  | [], [] => true
  | x :: xs, y :: ys => same x y && sameItems xs ys
  | _, _ => false

/-- Every member of the first list has the same value in the second. -/
def sameMembers : List (Text × Json) → List (Text × Json) → Bool
  | [], _ => true
  | (k, v) :: r, ns =>
    (match Fields.get? k ns with
      | some w => same v w
      | none => false) && sameMembers r ns

end

end Json

end TokenEndpoint
