import HtmlTemplate.Number.Decimal
import HtmlTemplate.Number.Radix

/-!
# JSON texts

The strict grammar of JSON: no trailing commas, no leading zeros, no bare control characters in
strings, and code units beyond the basic plane only in pairs. Numbers are kept exactly, objects
with all their members in order. Arrays and objects nest at most `maxDepth` deep.

Each step of the reader takes at least one character, so as many steps as there are characters
suffice.
-/

set_option autoImplicit false

namespace HtmlTemplate

inductive Json
  | null
  | bool (b : Bool)
  /-- A number, and whether it is written with neither point nor exponent. -/
  | number (value : Decimal) (isWhole : Bool)
  | string (s : String)
  | array (items : List Json)
  | object (members : List (String × Json))

namespace Json

def maxDepth : Nat := 127

def isBlank (c : Char) : Bool :=
  c = ' ' || c = '\t' || c = '\n' || c = '\r'

def skipBlank (cs : List Char) : List Char :=
  cs.dropWhile isBlank

/-- The character that a backslash and one letter stand for. -/
def escaped? : Char → Option Char
  | '"' => some '"'
  | '\\' => some '\\'
  | '/' => some '/'
  | 'b' => some '\x08'
  | 'f' => some '\x0c'
  | 'n' => some '\n'
  | 'r' => some '\r'
  | 't' => some '\t'
  | _ => none

/-- The string behind an opening quote, and what follows it. The characters read so far are kept
newest first, and so is the first code unit of a pair whose second one has to come. -/
def readString (newest : List Char) (high : Option Nat) : List Char → Option (String × List Char)
  | '\\' :: 'u' :: a :: b :: c :: d :: rest =>
    match Radix.number? 16 [a, b, c, d], high with
    | none, _ => none
    | some unit, none =>
      if 0xd800 ≤ unit ∧ unit < 0xdc00 then readString newest (some unit) rest
      else if 0xdc00 ≤ unit ∧ unit < 0xe000 then none
      else readString (.ofNat unit :: newest) none rest
    | some unit, some first =>
      if 0xdc00 ≤ unit ∧ unit < 0xe000 then
        let code := 0x10000 + (first - 0xd800) * 0x400 + (unit - 0xdc00)
        readString (.ofNat code :: newest) none rest
      else none
  | '\\' :: letter :: rest =>
    match escaped? letter, high with
    | some c, none => readString (c :: newest) none rest
    | _, _ => none
  | '"' :: rest => if high.isNone then some (.ofList newest.reverse, rest) else none
  | c :: rest => if high.isNone ∧ ' ' ≤ c then readString (c :: newest) none rest else none
  | [] => none

/-- A row of digits that is not empty, and what follows it. -/
def readDigits (cs : List Char) : Option (List Char × List Char) :=
  match cs.takeWhile Char.isDigit with
  | [] => none
  | digits => some (digits, cs.dropWhile Char.isDigit)

/-- The exponent of a number, zero if there is none. -/
def readExponent (cs : List Char) : Option (Int × Bool × List Char) :=
  let signed := fun (sign : Int) rest =>
    (readDigits rest).map fun (digits, rest) => (sign * Decimal.valueOfDigits digits, true, rest)
  match cs with
  | 'e' :: '-' :: rest | 'E' :: '-' :: rest => signed (-1) rest
  | 'e' :: '+' :: rest | 'E' :: '+' :: rest => signed 1 rest
  | 'e' :: rest | 'E' :: rest => signed 1 rest
  | _ => some (0, false, cs)

def readNumber (cs : List Char) : Option (Json × List Char) := do
  let (negative, cs) := match cs with
    | '-' :: rest => (true, rest)
    | _ => (false, cs)
  let (whole, cs) ← readDigits cs
  if 1 < whole.length ∧ whole.head? = some '0' then none
  let (fraction, cs) ← match cs with
    | '.' :: rest => readDigits rest
    | _ => some ([], cs)
  let (exponent, hasExponent, cs) ← readExponent cs
  some (.number (.ofParts negative whole fraction exponent) (fraction.isEmpty && !hasExponent), cs)

mutual

/-- The value at the front of a text and what follows it, in at most `steps` steps and with at most
`depth` arrays and objects within one another. -/
def readValue (steps depth : Nat) (cs : List Char) : Option (Json × List Char) :=
  match steps, cs with
  | 0, _ => none
  | _ + 1, 'n' :: 'u' :: 'l' :: 'l' :: rest => some (.null, rest)
  | _ + 1, 't' :: 'r' :: 'u' :: 'e' :: rest => some (.bool true, rest)
  | _ + 1, 'f' :: 'a' :: 'l' :: 's' :: 'e' :: rest => some (.bool false, rest)
  | _ + 1, '"' :: rest => (readString [] none rest).map fun (s, rest) => (.string s, rest)
  | steps + 1, '[' :: rest =>
    match depth, skipBlank rest with
    | 0, _ => none
    | _ + 1, ']' :: rest => some (.array [], rest)
    | depth + 1, rest => (readItems steps depth rest).map fun (items, rest) => (.array items, rest)
  | steps + 1, '{' :: rest =>
    match depth, skipBlank rest with
    | 0, _ => none
    | _ + 1, '}' :: rest => some (.object [], rest)
    | depth + 1, rest =>
      (readMembers steps depth rest).map fun (members, rest) => (.object members, rest)
  | _ + 1, cs => readNumber cs

/-- The items of an array, the first of which has to come, up to its end. -/
def readItems (steps depth : Nat) (cs : List Char) : Option (List Json × List Char) :=
  match steps with
  | 0 => none
  | steps + 1 =>
    match readValue steps depth (skipBlank cs) with
    | none => none
    | some (item, rest) =>
      match skipBlank rest with
      | ']' :: rest => some ([item], rest)
      | ',' :: rest => (readItems steps depth rest).map fun (items, rest) => (item :: items, rest)
      | _ => none

/-- The members of an object, the first of which has to come, up to its end. -/
def readMembers (steps depth : Nat) (cs : List Char) : Option (List (String × Json) × List Char) :=
  match steps, skipBlank cs with
  | steps + 1, '"' :: rest =>
    match readString [] none rest with
    | none => none
    | some (key, rest) =>
      match skipBlank rest with
      | ':' :: rest =>
        match readValue steps depth (skipBlank rest) with
        | none => none
        | some (value, rest) =>
          match skipBlank rest with
          | '}' :: rest => some ([(key, value)], rest)
          | ',' :: rest =>
            (readMembers steps depth rest).map fun (members, rest) =>
              ((key, value) :: members, rest)
          | _ => none
      | _ => none
  | _, _ => none

end

/-- The value that a whole text writes. -/
def parse? (text : String) : Option Json :=
  let cs := text.toList
  match readValue (cs.length + 1) maxDepth (skipBlank cs) with
  | some (value, rest) => if (skipBlank rest).isEmpty then some value else none
  | none => none

end Json

end HtmlTemplate
