/-!
Binary floating-point numbers taken apart: sign, significand and binary exponent. A finite number is
exactly `m · 2 ^ q`, so that what follows (decimal text, truncation, comparison) is integer
arithmetic.
-/

namespace TokenEndpoint.Decimal

/-- The value of a floating-point number. -/
inductive Binary where
  | nan
  | infinite (negative : Bool)
  | finite (negative : Bool) (m : Nat) (q : Int)
  deriving DecidableEq, Repr

namespace Binary

def ofBits (bits : UInt64) : Binary :=
  let negative := Nat.pow 2 63 ≤ bits.toNat
  let exponent : Nat := bits.toNat / Nat.pow 2 52 % 2048
  let fraction : Nat := bits.toNat % Nat.pow 2 52
  if exponent = 2047 then if fraction = 0 then infinite negative else nan
  else if exponent = 0 then finite negative fraction (-1074)
  else finite negative (Nat.pow 2 52 + fraction) ((exponent : Int) - 1075)

def ofFloat (x : Float) : Binary :=
  ofBits x.toBits

/-- The integer next to zero of a finite number's value; none for the others. -/
def truncate? : Binary → Option Int
  | finite negative m q =>
    let size : Nat := if 0 ≤ q then m * Nat.pow 2 q.toNat else m / Nat.pow 2 (-q).toNat
    some (if negative then -size else size)
  | _ => none

/-- The value, if it is an integer. -/
def integer? : Binary → Option Int
  | finite negative m q =>
    if 0 ≤ q ∨ m % Nat.pow 2 (-q).toNat = 0 then (finite negative m q).truncate? else none
  | _ => none

/-- The numerator and the denominator of a finite number's value. -/
def fraction? : Binary → Option (Int × Nat)
  | finite negative m q =>
    let size : Nat := if 0 ≤ q then m * Nat.pow 2 q.toNat else m
    some (if negative then -size else size, if 0 ≤ q then 1 else Nat.pow 2 (-q).toNat)
  | _ => none

/-- **Truncation is division toward zero.** -/
theorem truncate?_eq (x : Binary) : x.truncate? = x.fraction?.map fun (n, d) => n.tdiv d := by
  cases x with
  | nan => rfl
  | infinite negative => rfl
  | finite negative m q =>
    by_cases hq : 0 ≤ q
    · cases negative <;> simp [truncate?, fraction?, hq]
    · cases negative <;> simp [truncate?, fraction?, hq, Int.neg_tdiv]

end Binary

/-! ## Nearest number -/

/-- The quotient rounded to the nearest integer, a half to the even neighbour. -/
def roundDiv (num den : Nat) : Nat :=
  let q := num / den
  let r := num % den
  if 2 * r < den then q
  else if den < 2 * r then q + 1
  else if q % 2 = 0 then q else q + 1

/-- `num / den` in units of `2 ^ e`, again as numerator and denominator. -/
def inUnits (num den : Nat) (e : Int) : Nat × Nat :=
  if 0 ≤ e then (num, den * Nat.pow 2 e.toNat) else (num * Nat.pow 2 (-e).toNat, den)

/-- The exponent of the units of `num / den`: there are less than `2 ^ 53` of them, and at least
`2 ^ 52` unless the exponent is the least one. -/
def unitExponent (num den : Nat) : Int :=
  let guess : Int := max ((num.log2 : Int) - den.log2 - 53) (-1074)
  if Nat.pow 2 53 ≤ (inUnits num den guess).1 / (inUnits num den guess).2 then guess + 1 else guess

/-- The bits of `m · 2 ^ e` for at most `2 ^ 53` units, without a sign. -/
def encodeUnits (m : Nat) (e : Int) : UInt64 :=
  let (m, e) := if m = Nat.pow 2 53 then (Nat.pow 2 52, e + 1) else (m, e)
  if 971 < e then 0x7ff0000000000000
  else if m < Nat.pow 2 52 then .ofNat m
  else .ofNat ((e + 1075).toNat * Nat.pow 2 52 + (m - Nat.pow 2 52))

/-- The bits of the number nearest to `num / den`, without a sign. -/
def nearestBits (num den : Nat) : UInt64 :=
  if num = 0 then 0
  else
    let e := unitExponent num den
    encodeUnits (roundDiv (inUnits num den e).1 (inUnits num den e).2) e

/-- The number nearest to `± digits · 10 ^ exponent`. Powers of ten that are out of every range are
not computed. -/
def nearest (negative : Bool) (digits : Nat) (exponent : Int) : Float :=
  let places : Int := (Nat.toDigits 10 digits).length
  let bits : UInt64 :=
    if digits = 0 ∨ exponent + places < -330 then 0
    else if 310 < exponent + places then 0x7ff0000000000000
    else if 0 ≤ exponent then nearestBits (digits * Nat.pow 10 exponent.toNat) 1
    else nearestBits digits (Nat.pow 10 (-exponent).toNat)
  Float.ofBits (if negative then bits ||| 0x8000000000000000 else bits)

def ofInt (i : Int) : Float :=
  nearest (i < 0) i.natAbs 0

def infinity (negative : Bool) : Float :=
  Float.ofBits (if negative then 0xfff0000000000000 else 0x7ff0000000000000)

def nan : Float :=
  Float.ofBits 0x7ff8000000000000

end TokenEndpoint.Decimal
