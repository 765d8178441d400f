import TokenEndpoint.Decimal.Binary
/-!
Readings of a clock and lengths of time: integers and floating-point numbers. A sum of integers is
exact; one with a floating-point number is the floating-point number nearest to the exact sum.
Comparison is exact, also between the two kinds.
-/

namespace TokenEndpoint.Decimal

namespace Binary

def withSign (negative : Bool) : Binary → Binary
  | nan => nan
  | infinite _ => infinite negative
  | finite _ m q => finite negative m q

/-- The floating-point number nearest to a fraction. -/
def ofFraction (num : Int) (den : Nat) : Binary :=
  (ofBits (nearestBits num.natAbs den)).withSign (num < 0)

def neg : Binary → Binary
  | nan => nan
  | infinite negative => infinite !negative
  | finite negative m q => finite (!negative) m q

/-- A sum of zero is negative only if both numbers are. -/
def add : Binary → Binary → Binary
  | infinite s, infinite t => if s = t then infinite s else nan
  | infinite s, finite _ _ _ => infinite s
  | finite _ _ _, infinite t => infinite t
  | finite s m q, finite t n r =>
    match (finite s m q).fraction?, (finite t n r).fraction? with
    | some (a, d), some (b, e) =>
      let sum := a * e + b * d
      if sum = 0 then finite (s && t) 0 (-1074) else ofFraction sum (d * e)
    | _, _ => nan
  | _, _ => nan

end Binary

inductive Number where
  | whole (i : Int)
  | real (x : Binary)
  deriving DecidableEq, Repr

namespace Number

def ofFloat (x : Float) : Number :=
  real (Binary.ofFloat x)

def toBinary : Number → Binary
  | whole i => Binary.ofFraction i 1
  | real x => x

def neg : Number → Number
  | whole i => whole (-i)
  | real x => real x.neg

def add : Number → Number → Number
  | whole i, whole j => whole (i + j)
  | a, b => real (a.toBinary.add b.toBinary)

instance : Add Number := ⟨add⟩

instance : Sub Number := ⟨fun a b => add a (neg b)⟩

/-- Numerator and denominator, if the number is finite. -/
def fraction? : Number → Option (Int × Nat)
  | whole i => some (i, 1)
  | real x => x.fraction?

def isNan : Number → Bool
  | real .nan => true
  | _ => false

/-- A number that is not one is neither below nor above another. -/
def below (a b : Number) : Bool :=
  match a.fraction?, b.fraction? with
  | some (n, d), some (m, e) => n * e < m * d
  | none, some _ => a = real (.infinite true)
  | some _, none => b = real (.infinite false)
  | none, none => a = real (.infinite true) && b = real (.infinite false)

/-- A number that is not one is at most nothing, and nothing is at most it. -/
def atMost (a b : Number) : Bool :=
  !a.isNan && !b.isNan && !b.below a

/-- The integer next to zero; none for a number that is not finite. -/
def truncate? : Number → Option Int
  | whole i => some i
  | real x => x.truncate?

/-- **The integer next to zero is the quotient toward zero**, of whole and of real numbers. -/
theorem truncate?_eq (x : Number) : x.truncate? = x.fraction?.map fun (n, d) => n.tdiv d := by
  cases x with
  | whole i => simp [truncate?, fraction?]
  | real x => exact x.truncate?_eq

end Number

end TokenEndpoint.Decimal
