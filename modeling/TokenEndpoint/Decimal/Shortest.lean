import TokenEndpoint.Decimal.Binary
/-!
The decimal text of a floating-point number: the fewest digits that read back as the number, and of
those the nearest to it (`shortest`); then a layout that says where the point stands and when an
exponent is written (`Layout.render`).
-/

namespace TokenEndpoint.Decimal

/-! ## 1. The digits -/

/-- Four times the distance unit: a number and the two ends of the interval of reals that round to
it, as multiples of `2 ^ (q - 2)`. The ends belong to the interval iff the significand is even. -/
structure Interval where
  low : Nat
  value : Nat
  high : Nat
  closed : Bool

/-- Below a power of two the neighbour is half as far. -/
def interval (m : Nat) (q : Int) : Interval :=
  { low := if m = Nat.pow 2 52 ∧ q ≠ -1074 then 4 * m - 1 else 4 * m - 2
    value := 4 * m
    high := 4 * m + 2
    closed := m % 2 = 0 }

/-- The multiple of `10 ^ k` in the interval that is nearest to the value, the even one of two. The
unit `2 ^ (q - 2) / 10 ^ k` is `up / down`. -/
def gridPoint? (i : Interval) (up down : Nat) : Option Nat :=
  let inside (d : Nat) : Bool :=
    if i.closed then i.low * up ≤ d * down && d * down ≤ i.high * up
    else i.low * up < d * down && d * down < i.high * up
  let below := i.value * up / down
  let above := below + 1
  match inside below, inside above with
  | true, true =>
    let left := i.value * up - below * down
    let right := above * down - i.value * up
    some (if left < right then below else if right < left then above
      else if below % 2 = 0 then below else above)
  | true, false => some below
  | false, true => some above
  | false, false => none

/-- Tries the grids of spacing `10 ^ k`, `10 ^ (k - 1)` and so on. -/
def search (i : Interval) (q : Int) : (tries : Nat) → (k : Int) → Nat × Int
  | 0, k => (0, k)
  | tries + 1, k =>
    let e := q - 2
    let up :=
      (if 0 ≤ e then Nat.pow 2 e.toNat else 1) * (if 0 ≤ k then 1 else Nat.pow 10 (-k).toNat)
    let down :=
      (if 0 ≤ e then 1 else Nat.pow 2 (-e).toNat) * (if 0 ≤ k then Nat.pow 10 k.toNat else 1)
    match gridPoint? i up down with
    | some d => (d, k)
    | none => search i q tries (k - 1)

/-- Digits `d` and exponent `k` of the shortest decimal `d · 10 ^ k` that rounds to `m · 2 ^ q`. The
search starts above the number and ends after its seventeenth digit. -/
def shortest (m : Nat) (q : Int) : Nat × Int :=
  if m = 0 then (0, 0)
  else search (interval m q) q 24 (((m.log2 : Int) + q) * 30103 / 100000 + 2)

/-! ## 2. The layout -/

/-- How the digits are laid out: written in place if the point stands more than `-leading` and at
most `trailing` places right of the first digit's left, else with an exponent. -/
structure Layout where
  leading : Int
  trailing : Int
  infinity : String
  nan : String

/-- In place from 0.0001 up to 16 digits before the point. -/
def Layout.plain : Layout :=
  { leading := 3, trailing := 16, infinity := "inf", nan := "nan" }

def exponentText (e : Int) : String :=
  let digits := toString e.natAbs
  (if e < 0 then "e-" else "e+") ++ (if digits.length < 2 then "0" ++ digits else digits)

def zeros (n : Int) : String :=
  String.ofList (List.replicate n.toNat '0')

/-- The digits `0.d₁d₂… · 10 ^ point` laid out. -/
def Layout.place (layout : Layout) (digits : List Char) (point : Int) : String :=
  let text := String.ofList
  if -layout.leading ≤ point ∧ point ≤ layout.trailing then
    if point ≤ 0 then "0." ++ zeros (-point) ++ text digits
    else if digits.length ≤ point then text digits ++ zeros (point - digits.length) ++ ".0"
    else text (digits.take point.toNat) ++ "." ++ text (digits.drop point.toNat)
  else
    text (digits.take 1) ++ (if digits.length ≤ 1 then "" else "." ++ text (digits.drop 1)) ++
      exponentText (point - 1)

/-- The digits of a number without the zeros at its end. -/
def significantDigits (d : Nat) : List Char :=
  ((Nat.toDigits 10 d).reverse.dropWhile (· == '0')).reverse

def Layout.renderBinary (layout : Layout) (x : Binary) : String :=
  match x with
  | .nan => layout.nan
  | .infinite negative => (if negative then "-" else "") ++ layout.infinity
  | .finite negative m q =>
    let sign := if negative then "-" else ""
    if m = 0 then sign ++ "0.0"
    else
      let (d, k) := shortest m q
      sign ++ layout.place (significantDigits d) (k + (Nat.toDigits 10 d).length)

def Layout.render (layout : Layout) (x : Float) : String :=
  layout.renderBinary (Binary.ofFloat x)

end TokenEndpoint.Decimal
