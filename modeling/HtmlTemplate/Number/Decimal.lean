/-!
# Decimal numbers

A decimal is a sign, a coefficient and a power of ten. It is what a written number says exactly,
and what a number is written from: in positions only, never with an exponent.
-/

set_option autoImplicit false

namespace HtmlTemplate

/-- The number `coefficient * 10 ^ exponent`, with a sign that zero keeps too. -/
structure Decimal where
  negative : Bool
  coefficient : Nat
  exponent : Int
deriving DecidableEq, Repr

namespace Decimal

/-- The number that a row of digits denotes. -/
def valueOfDigits (digits : List Char) : Nat :=
  digits.foldl (fun value digit => 10 * value + (digit.toNat - '0'.toNat)) 0

/-- The decimal written with the digits before and behind the point and an exponent. -/
def ofParts (negative : Bool) (whole fraction : List Char) (exponent : Int) : Decimal :=
  ⟨negative, valueOfDigits (whole ++ fraction), exponent - fraction.length⟩

def digitsOf (n : Nat) : List Char :=
  Nat.toDigits 10 n

/-- The digits of the coefficient before and behind the point. -/
def places (d : Decimal) : List Char × List Char :=
  let digits := digitsOf d.coefficient
  match d.exponent with
  | .ofNat zeros => (digits ++ List.replicate zeros '0', [])
  | .negSucc n =>
    let padded := List.replicate (n + 2 - digits.length) '0' ++ digits
    padded.splitAt (padded.length - (n + 1))

/-- All digits in their positions. The fraction loses its last zeros, and the point with them. -/
def text (d : Decimal) : String :=
  let (whole, fraction) := d.places
  let fraction := (fraction.reverse.dropWhile (· = '0')).reverse
  let point := if fraction.isEmpty then [] else ['.']
  (if d.negative then "-" else "") ++ String.ofList (whole ++ point ++ fraction)

end Decimal

end HtmlTemplate
