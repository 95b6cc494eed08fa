import HtmlTemplate.Toml.Data
import HtmlTemplate.Value

/-!
# Model values from TOML

A whole number is an integer if it fits into 64 bits, and the nearest double if it fits into an
unsigned word of 64 bits; with any other there is no value. Dates and times are no kind of model
value: each stands as a map without entries.
-/

set_option autoImplicit false

namespace HtmlTemplate.Value

/-- The value of a whole number. -/
def ofTomlInt? (n : Int) : Option Value :=
  match ofInt? n with
  | some value => some value
  | none => if 0 ≤ n ∧ n < 0x10000000000000000 then some (float (.ofInt n)) else none

mutual

def ofToml? : Toml → Option Value
  | .bool b => some (bool b)
  | .integer n => ofTomlInt? n
  | .float x => some (float x)
  | .outOfRange => none
  | .dateTime => some (map [])
  | .string s => some (string s)
  | .array items => (ofTomlItems? items).map list
  | .table entries => (ofTomlEntries? entries).map map

def ofTomlItems? : List Toml → Option (List Value)
  | [] => some []
  | item :: rest =>
    match ofToml? item, ofTomlItems? rest with
    | some value, some values => some (value :: values)
    | _, _ => none

def ofTomlEntries? : List (String × Toml) → Option (List (String × Value))
  | [] => some []
  | (key, item) :: rest =>
    match ofToml? item, ofTomlEntries? rest with
    | some value, some values => some ((key, value) :: values)
    | _, _ => none

end

end HtmlTemplate.Value
