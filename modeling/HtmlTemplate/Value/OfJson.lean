import HtmlTemplate.Json
import HtmlTemplate.Value

/-!
# Model values from JSON

A number written without point and exponent is an integer if it fits into 64 bits and is not a
negative zero; every other number is the nearest double and has to be finite. Of members with a
common key the first gives the place and the last the value.
-/

set_option autoImplicit false

namespace HtmlTemplate.Value

/-- The value of a written number. -/
def ofNumber? (value : Decimal) (isWhole : Bool) : Option Value :=
  let whole : Int := if value.negative then -value.coefficient else value.coefficient
  let negativeZero := value.negative && value.coefficient = 0
  match if isWhole && !negativeZero then ofInt? whole else none with
  | some n => some n
  | none =>
    let nearest := Double.ofDecimal value
    if nearest.isInfinite then none else some (float nearest)

mutual

def ofJson? : Json → Option Value
  | .null => some null
  | .bool b => some (bool b)
  | .number value isWhole => ofNumber? value isWhole
  | .string s => some (string s)
  | .array items => (ofItems? items).map list
  | .object members => (ofMembers? members).map ofPairs

def ofItems? : List Json → Option (List Value)
  | [] => some []
  | item :: rest =>
    match ofJson? item, ofItems? rest with
    | some value, some values => some (value :: values)
    | _, _ => none

def ofMembers? : List (String × Json) → Option (List (String × Value))
  | [] => some []
  | (key, item) :: rest =>
    match ofJson? item, ofMembers? rest with
    | some value, some values => some ((key, value) :: values)
    | _, _ => none

end

end HtmlTemplate.Value
