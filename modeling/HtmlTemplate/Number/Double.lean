import HtmlTemplate.Number.Decimal

/-!
# Double-precision numbers

A double is its 64 bits in the binary interchange format: a sign, eleven bits of exponent and
fifty-two bits of fraction. Decimals are read to the nearest double, a tie to the one whose last
bit is zero. A finite double is written with the fewest digits that read back as it; of several
such numbers the nearest is taken, and the greater of two that are equally near.
-/

set_option autoImplicit false

namespace HtmlTemplate

structure Double where
  bits : UInt64
deriving DecidableEq, Repr

namespace Double

/-- The weight of the bit that holds the sign. -/
def signWeight : Nat := 0x8000000000000000

/-- The weight of the lowest bit of the exponent. -/
def exponentWeight : Nat := 0x10000000000000

def isNegative (x : Double) : Bool :=
  decide (signWeight ≤ x.bits.toNat)

def exponentField (x : Double) : Nat :=
  x.bits.toNat / exponentWeight % 2048

def fractionField (x : Double) : Nat :=
  x.bits.toNat % exponentWeight

def isNaN (x : Double) : Bool :=
  x.exponentField = 2047 && x.fractionField ≠ 0

def isInfinite (x : Double) : Bool :=
  x.exponentField = 2047 && x.fractionField = 0

def isZero (x : Double) : Bool :=
  x.exponentField = 0 && x.fractionField = 0

/-- Numerical equality: zeros are equal whatever their signs, and not-a-number equals nothing. -/
def same (x y : Double) : Bool :=
  !x.isNaN && !y.isNaN && (x.bits = y.bits || (x.isZero && y.isZero))

/-- The double with the given bits below the sign. -/
def ofMagnitude (negative : Bool) (magnitude : Nat) : Double :=
  ⟨.ofNat (if negative then signWeight + magnitude else magnitude)⟩

def infinity (negative : Bool) : Double :=
  ofMagnitude negative (2047 * exponentWeight)

def notANumber : Double :=
  ofMagnitude false (2047 * exponentWeight + exponentWeight / 2)

/-- The whole number nearest to a quotient, the even one of two. -/
def roundQuotient (numerator denominator : Nat) : Nat :=
  let quotient := numerator / denominator
  let twice := 2 * (numerator % denominator)
  if twice < denominator then quotient
  else if denominator < twice then quotient + 1
  else quotient + quotient % 2

/-- Numerator and denominator of `n * base ^ power`. -/
def scaled (n base : Nat) : Int → Nat × Nat
  | .ofNat power => (n * Nat.pow base power, 1)
  | .negSucc power => (n, Nat.pow base (power + 1))

/-- The exponent of the last bit that a double nearest to a positive quotient has. -/
def lastBit (numerator denominator : Nat) : Int :=
  let estimate : Int := (numerator.log2 : Int) - denominator.log2 - 53
  let (n, d) := scaled denominator 2 (estimate + 53)
  max (if numerator * d < n then estimate else estimate + 1) (-1074)

/-- The bits below the sign of the double nearest to a positive quotient. Rounding up to a power of
two carries into the exponent, and numbers beyond the range become infinite. -/
def nearest (numerator denominator : Nat) : Nat :=
  let last := lastBit numerator denominator
  let (n, d) := scaled numerator 2 (-last)
  min ((last + 1074).toNat * exponentWeight + roundQuotient n (denominator * d))
    (2047 * exponentWeight)

/-- The double nearest to a decimal. -/
def ofDecimal (d : Decimal) : Double :=
  let magnitude : Int := (Decimal.digitsOf d.coefficient).length + d.exponent
  if d.coefficient = 0 || magnitude < -330 then ofMagnitude d.negative 0
  else if 310 < magnitude then infinity d.negative
  else
    let (numerator, denominator) := scaled d.coefficient 10 d.exponent
    ofMagnitude d.negative (nearest numerator denominator)

def ofInt (n : Int) : Double :=
  ofDecimal ⟨n < 0, n.natAbs, 0⟩

/-- A finite double without its sign as a whole number times a power of two. -/
def significand (x : Double) : Nat × Int :=
  if x.exponentField = 0 then (x.fractionField, -1074)
  else (exponentWeight + x.fractionField, (x.exponentField : Int) - 1075)

/-- The power of ten of the first digit of a positive quotient. -/
def firstPlace (numerator denominator : Nat) : Int :=
  let estimate : Int :=
    ((Decimal.digitsOf numerator).length : Int) - (Decimal.digitsOf denominator).length
  let (n, d) := scaled denominator 10 estimate
  if numerator * d < n then estimate - 1 else estimate

/-- The multiple of `10 ^ place` that reads back as the positive double `4 * m * 2 ^ (q - 2)` and is
nearest to it, if there is one. Numbers from `gap` quarters below the double to two quarters above
it read back as it, the bounds only if `m` is even. -/
def multipleAt (m : Nat) (q : Int) (gap : Nat) (place : Int) : Option Nat :=
  let (a, b) := scaled 1 2 (q - 2)
  let (c, d) := scaled 1 10 place
  let value := 4 * m * (a * d)
  let low := (4 * m - gap) * (a * d)
  let high := (4 * m + 2) * (a * d)
  let unit := b * c
  let below := value / unit
  let above := below + 1
  let reads := fun bound other => decide (bound < other) || (bound = other && m % 2 = 0)
  match reads low (below * unit), reads (above * unit) high with
  | false, false => none
  | true, false => some below
  | false, true => some above
  | true, true => some (if value - below * unit < above * unit - value then below else above)

/-- The decimal with the fewest digits that reads back as a finite double other than zero. -/
def shortest (x : Double) : Decimal :=
  let (m, q) := x.significand
  let (numerator, denominator) := scaled m 2 q
  let gap := if x.fractionField = 0 && 1 < x.exponentField then 1 else 2
  let first := firstPlace numerator denominator
  let found := (List.range 17).findSome? fun (n : Nat) =>
    (multipleAt m q gap (first - n)).map fun coefficient =>
      (⟨x.isNegative, coefficient, first - n⟩ : Decimal)
  found.getD ⟨x.isNegative, m, q⟩

def text (x : Double) : String :=
  if x.isNaN then "NaN"
  else if x.isInfinite then (if x.isNegative then "-inf" else "inf")
  else if x.isZero then (if x.isNegative then "-0" else "0")
  else x.shortest.text

end Double

end HtmlTemplate
