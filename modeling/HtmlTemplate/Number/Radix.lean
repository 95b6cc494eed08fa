/-!
# Digits of any base

The digits `0` to `9` and the letters `a` to `f` in either case stand for the numbers below sixteen,
and a row of them for a number in any base up to that.
-/

set_option autoImplicit false

namespace HtmlTemplate.Radix

def digit? (c : Char) : Option Nat :=
  if '0' ≤ c ∧ c ≤ '9' then some (c.toNat - '0'.toNat)
  else if 'a' ≤ c ∧ c ≤ 'f' then some (c.toNat - 'a'.toNat + 10)
  else if 'A' ≤ c ∧ c ≤ 'F' then some (c.toNat - 'A'.toNat + 10)
  else none

/-- The digit that a character is in the given base. -/
def digitOf? (base : Nat) (c : Char) : Option Nat :=
  (digit? c).filter fun digit => digit < base

/-- The number that a row of digits denotes, if all of them are digits of the base. -/
def number? (base : Nat) (digits : List Char) : Option Nat :=
  digits.foldlM (fun value c => (digitOf? base c).map (base * value + ·)) 0

/-- The character whose code a row of hexadecimal digits denotes. -/
def character? (digits : List Char) : Option Char :=
  (number? 16 digits).bind fun code => if code.isValidChar then some (.ofNat code) else none

end HtmlTemplate.Radix
