import HtmlTemplate.Number.Double

/-!
# Data of TOML

What a text of TOML stands for. Whether a whole number fits into a word is for the reader of the
data to decide, and so is what becomes of a number that is out of every range.
-/

set_option autoImplicit false

namespace HtmlTemplate

inductive Toml
  | bool (b : Bool)
  | integer (n : Int)
  | float (x : Double)
  /-- A number that nothing can hold: a whole number of more than 128 bits or without digits of its
  base, or a decimal beyond the range of doubles. -/
  | outOfRange
  | dateTime
  | string (s : String)
  | array (items : List Toml)
  | table (entries : List (String × Toml))

namespace Toml

instance : Inhabited Toml := ⟨table []⟩

/-- A whole number, signed or unsigned in a word of 128 bits. -/
def ofInt (n : Int) : Toml :=
  if -0x80000000000000000000000000000000 ≤ n ∧ n < 0x100000000000000000000000000000000 then
    integer n
  else outOfRange

/-- The number nearest to a decimal. -/
def ofDecimal (d : Decimal) : Toml :=
  let nearest := Double.ofDecimal d
  if nearest.isInfinite then outOfRange else float nearest

mutual

/-- Whether every number in the data is in range. -/
def isInRange : Toml → Bool
  | outOfRange => false
  | array items => areInRange items
  | table entries => entriesInRange entries
  | _ => true

def areInRange : List Toml → Bool
  | [] => true
  | item :: rest => item.isInRange && areInRange rest

def entriesInRange : List (String × Toml) → Bool
  | [] => true
  | (_, item) :: rest => item.isInRange && entriesInRange rest

end

end Toml

end HtmlTemplate
