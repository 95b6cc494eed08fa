import HtmlTemplate.Number.Radix
import HtmlTemplate.Toml.Data
import HtmlTemplate.Toml.Quoted

/-!
# Bare scalars of TOML

Truth values, whole numbers in four bases, floating-point numbers, and dates and times, as they are
written without quotes. A low line in a number has a digit on either side; the sign of a number may
stand in place of the digit before it.

A text with hexadecimal digits around each of its low lines spells a whole number even if other
characters in it leave that number without a value. Dates and times are checked and not kept.
-/

set_option autoImplicit false

namespace HtmlTemplate.Toml

def isQuote (c : Char) : Bool :=
  c = '"' || c = '\''

/-- The characters that stand in no bare scalar, blanks apart. -/
def scalarEnds : List Char :=
  ['\r', '\n', '#', ',', '=', '[', ']', '\x7b', '\x7d']

def isScalarChar (c : Char) : Bool :=
  !isBlank c && !scalarEnds.contains c

/-- The bare scalar at the front of a text, and what follows it and blanks. It goes on behind blanks
if more of its characters follow, of which a quote is none there. -/
def splitScalar (behindBlank : Bool) : List Char → List Char × List Char
  | [] => ([], [])
  | c :: rest =>
    if isBlank c then
      match splitScalar true rest with
      | ([], rest) => ([], rest)
      | (run, rest) => (c :: run, rest)
    else if isScalarChar c && !(behindBlank && isQuote c) then
      let (run, rest) := splitScalar false rest
      (c :: run, rest)
    else ([], c :: rest)

/-- A sign, which may be missing, and what follows it. -/
def splitSign : List Char → Bool × List Char
  | '-' :: rest => (true, rest)
  | '+' :: rest => (false, rest)
  | cs => (false, cs)

/-- What is left of a number without its low lines, each of which has to stand between digits. -/
def joined? (isDigit : Char → Bool) : List Char → Option (List Char)
  | [] => some []
  | c :: '_' :: d :: rest =>
    if isDigit c && isDigit d then (joined? isDigit (d :: rest)).map (c :: ·) else none
  | c :: rest => if c = '_' then none else (joined? isDigit rest).map (c :: ·)

/-- The digits of a number without the low lines between them. -/
def digits? (isDigit : Char → Bool) (cs : List Char) : Option (List Char) :=
  (joined? isDigit cs).filter fun digits => !digits.isEmpty && digits.all isDigit

/-- The number that digits behind the sign of a base denote. Without any there is no such number. -/
def radixNumber? (base : Nat) (cs : List Char) : Option Toml :=
  if cs.isEmpty then some .outOfRange
  else
    let digits := digits? (fun c => (Radix.digitOf? base c).isSome) cs
    (digits.bind (Radix.number? base)).map fun n => .ofInt n

def signed (negative : Bool) (n : Nat) : Int :=
  if negative then -n else n

def isHexDigit (c : Char) : Bool :=
  (Radix.digit? c).isSome

/-- The whole number that a text behind its sign spells. -/
def wholeNumber? (negative : Bool) (cs : List Char) : Option Toml :=
  match joined? isHexDigit cs with
  | none => none
  | some digits =>
    if !digits.head?.any isHexDigit then none
    else if digits.all Char.isDigit then
      some (.ofInt (signed negative (Decimal.valueOfDigits digits)))
    else some .outOfRange

def isNumberChar (c : Char) : Bool :=
  c.isDigit || c = '_'

/-- The digits behind a point, none if there is no point, and what follows them. -/
def fraction? : List Char → Option (List Char × List Char)
  | '.' :: rest =>
    (digits? Char.isDigit (rest.takeWhile isNumberChar)).map fun digits =>
      (digits, rest.dropWhile isNumberChar)
  | cs => some ([], cs)

/-- The exponent that ends a number, zero if there is none. -/
def exponent? : List Char → Option Int
  | [] => some 0
  | c :: rest =>
    if c = 'e' || c = 'E' then
      let (negative, cs) := splitSign rest
      (digits? Char.isDigit cs).map fun digits => signed negative (Decimal.valueOfDigits digits)
    else none

/-- The number with a fraction or an exponent that a text behind its sign spells. -/
def fractionalNumber? (negative : Bool) (cs : List Char) : Option Toml := do
  let whole ← digits? Char.isDigit (cs.takeWhile isNumberChar)
  let (fraction, rest) ← fraction? (cs.dropWhile isNumberChar)
  let exponent ← exponent? rest
  return .ofDecimal (.ofParts negative whole fraction exponent)

/-- Whether a number has a zero in front of its first part that it could do without. -/
def hasLeadingZero : List Char → Bool
  | '0' :: c :: _ => isNumberChar c
  | _ => false

/-- The number that a text spells in decimal digits. -/
def decimalNumber? (cs : List Char) : Option Toml :=
  let (negative, body) := splitSign cs
  let digits := if body.length < cs.length && body.head? = some '_' then body.drop 1 else body
  let rest := body.dropWhile Char.isDigit
  if body = ['i', 'n', 'f'] then some (.float (.infinity negative))
  else if body = ['n', 'a', 'n'] then some (.float .notANumber)
  else if hasLeadingZero body then none
  else if rest.any fun c => c = '.' || c = 'e' || c = 'E' then fractionalNumber? negative digits
  else if rest.isEmpty || rest.head? = some '_' then wholeNumber? negative digits
  else none

def number? : List Char → Option Toml
  | '0' :: 'x' :: digits => radixNumber? 16 digits
  | '0' :: 'o' :: digits => radixNumber? 8 digits
  | '0' :: 'b' :: digits => radixNumber? 2 digits
  | cs => decimalNumber? cs

def isLeapYear (year : Nat) : Bool :=
  year % 4 = 0 && (year % 100 ≠ 0 || year % 400 = 0)

def daysInMonth (year month : Nat) : Nat :=
  if month = 2 then (if isLeapYear year then 29 else 28)
  else if month = 4 || month = 6 || month = 9 || month = 11 then 30
  else 31

/-- The number that exactly so many decimal digits at the front denote, and what follows them. -/
def fixedNumber? (width : Nat) (cs : List Char) : Option (Nat × List Char) :=
  let digits := cs.take width
  if digits.length = width ∧ digits.all Char.isDigit then
    some (Decimal.valueOfDigits digits, cs.drop width)
  else none

/-- What follows a date at the front. -/
def afterDate? (cs : List Char) : Option (List Char) := do
  let (year, cs) ← fixedNumber? 4 cs
  let '-' :: cs := cs | none
  let (month, cs) ← fixedNumber? 2 cs
  let '-' :: cs := cs | none
  let (day, cs) ← fixedNumber? 2 cs
  if 1 ≤ month ∧ month ≤ 12 ∧ 1 ≤ day ∧ day ≤ daysInMonth year month then some cs else none

/-- What follows hours and minutes at the front. -/
def afterMinutes? (cs : List Char) : Option (List Char) := do
  let (hour, cs) ← fixedNumber? 2 cs
  let ':' :: cs := cs | none
  let (minute, cs) ← fixedNumber? 2 cs
  if hour ≤ 23 ∧ minute ≤ 59 then some cs else none

/-- What follows a time at the front. Seconds, and fractions of them, may be missing. -/
def afterTime? (cs : List Char) : Option (List Char) := do
  let cs ← afterMinutes? cs
  let ':' :: cs := cs | some cs
  let (second, cs) ← fixedNumber? 2 cs
  if 60 < second then none
  let '.' :: cs := cs | some cs
  if (cs.takeWhile Char.isDigit).isEmpty then none
  some (cs.dropWhile Char.isDigit)

/-- Whether a text is nothing or a distance from universal time. -/
def isOffset : List Char → Bool
  | [] => true
  | [c] => c = 'Z' || c = 'z'
  | c :: rest => (c = '+' || c = '-') && afterMinutes? rest = some []

/-- Whether a text is a date, a time, or both with a letter or a space between them. -/
def isDateTime (cs : List Char) : Bool :=
  match afterDate? cs with
  | some [] => true
  | some (c :: rest) => (c = 'T' || c = 't' || c = ' ') && (afterTime? rest).any isOffset
  | none => afterTime? cs = some []

/-- The value of a whole bare scalar. -/
def scalar? (cs : List Char) : Option Toml :=
  if cs = ['t', 'r', 'u', 'e'] then some (.bool true)
  else if cs = ['f', 'a', 'l', 's', 'e'] then some (.bool false)
  else if isDateTime cs then some .dateTime
  else number? cs

/-- The bare scalar at the front of a text, and what follows it and blanks. -/
def readScalar (cs : List Char) : Option (Toml × List Char) :=
  let (run, rest) := splitScalar false cs
  (scalar? run).map fun value => (value, rest)

end HtmlTemplate.Toml
