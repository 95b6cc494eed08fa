import HtmlTemplate.Number.Radix

/-!
# Quoted strings of TOML

Strings in double quotes have escapes, strings in single quotes do not. Three quotes open a string
of several lines, which loses a line end right behind them. Such a string ends at the next three
quotes, and up to two more that follow belong to it.
-/

set_option autoImplicit false

namespace HtmlTemplate.Toml

def isBlank (c : Char) : Bool :=
  c = ' ' || c = '\t'

/-- Whether a character may stand in a line of text. -/
def isPlain (c : Char) : Bool :=
  c = '\t' || (' ' ≤ c && c ≠ '\x7f')

/-- The character that a backslash and one letter stand for. -/
def escaped? : Char → Option Char
  | 'b' => some '\x08'
  | 't' => some '\t'
  | 'n' => some '\n'
  | 'f' => some '\x0c'
  | 'r' => some '\r'
  | 'e' => some '\x1b'
  | '"' => some '"'
  | '\\' => some '\\'
  | _ => none

/-- The quotes that belong to a string of several lines although they stand at its end, and what
follows the string, where `cs` is what follows the three quotes that end it. -/
def closing (quote : Char) (newest : List Char) : List Char → String × List Char
  | a :: b :: rest =>
    if a = quote ∧ b = quote then (.ofList (b :: a :: newest).reverse, rest)
    else if a = quote then (.ofList (a :: newest).reverse, b :: rest)
    else (.ofList newest.reverse, a :: b :: rest)
  | [a] =>
    if a = quote then (.ofList (a :: newest).reverse, []) else (.ofList newest.reverse, [a])
  | [] => (.ofList newest.reverse, [])

/-- What is left of a text of several lines behind its opening quotes. -/
def dropLineEnd : List Char → List Char
  | '\n' :: rest => rest
  | '\r' :: '\n' :: rest => rest
  | cs => cs

/-- A gap is the white space behind a backslash at the end of a line, up to the next text. -/
inductive Gap
  | none
  /-- The line has not ended yet. -/
  | opened
  | lines
deriving DecidableEq, Repr

/-- The rest of a string in single quotes and what follows it. The characters read so far are kept
newest first. -/
def readLiteral (newest : List Char) : List Char → Option (String × List Char)
  | [] => none
  | c :: rest =>
    if c = '\'' then some (.ofList newest.reverse, rest)
    else if isPlain c then readLiteral (c :: newest) rest
    else none

/-- The rest of a string in three single quotes and what follows it. -/
def readLiteralLines (newest : List Char) : List Char → Option (String × List Char)
  | '\'' :: '\'' :: '\'' :: rest => some (closing '\'' newest rest)
  | '\r' :: '\n' :: rest => readLiteralLines ('\n' :: '\r' :: newest) rest
  | c :: rest => if c = '\n' || isPlain c then readLiteralLines (c :: newest) rest else none
  | [] => none

/-- The rest of a string in double quotes and what follows it. -/
def readBasic (newest : List Char) : List Char → Option (String × List Char)
  | '"' :: rest => some (.ofList newest.reverse, rest)
  | '\\' :: 'x' :: a :: b :: rest =>
    match Radix.character? [a, b] with
    | some c => readBasic (c :: newest) rest
    | none => none
  | '\\' :: 'u' :: a :: b :: c :: d :: rest =>
    match Radix.character? [a, b, c, d] with
    | some c => readBasic (c :: newest) rest
    | none => none
  | '\\' :: 'U' :: a :: b :: c :: d :: e :: f :: g :: h :: rest =>
    match Radix.character? [a, b, c, d, e, f, g, h] with
    | some c => readBasic (c :: newest) rest
    | none => none
  | '\\' :: letter :: rest =>
    match escaped? letter with
    | some c => readBasic (c :: newest) rest
    | none => none
  | c :: rest => if isPlain c && c ≠ '\\' then readBasic (c :: newest) rest else none
  | [] => none

/-- The rest of a string in three double quotes and what follows it. -/
def readBasicLines (gap : Gap) (newest : List Char) : List Char → Option (String × List Char)
  | [] => none
  | c :: rest =>
    if gap ≠ .none ∧ isBlank c then readBasicLines gap newest rest
    else if gap ≠ .none ∧ c = '\n' then readBasicLines .lines newest rest
    else if gap ≠ .none ∧ c = '\r' ∧ rest.head? = some '\n' then readBasicLines gap newest rest
    else if gap = .opened then none
    else
      match c, rest with
      | '"', '"' :: '"' :: rest => some (closing '"' newest rest)
      | '\r', '\n' :: rest => readBasicLines .none ('\n' :: '\r' :: newest) rest
      | '\\', 'x' :: a :: b :: rest =>
        match Radix.character? [a, b] with
        | some c => readBasicLines .none (c :: newest) rest
        | none => none
      | '\\', 'u' :: a :: b :: c :: d :: rest =>
        match Radix.character? [a, b, c, d] with
        | some c => readBasicLines .none (c :: newest) rest
        | none => none
      | '\\', 'U' :: a :: b :: c :: d :: e :: f :: g :: h :: rest =>
        match Radix.character? [a, b, c, d, e, f, g, h] with
        | some c => readBasicLines .none (c :: newest) rest
        | none => none
      | '\\', letter :: rest =>
        match escaped? letter with
        | some c => readBasicLines .none (c :: newest) rest
        | none => readBasicLines .opened newest (letter :: rest)
      | c, rest =>
        if c = '\n' || (isPlain c && c ≠ '\\') then readBasicLines .none (c :: newest) rest
        else none

/-- The string at the front of a text and what follows it, if the text begins with a quote. -/
def readQuoted : List Char → Option (String × List Char)
  | '"' :: '"' :: '"' :: rest => readBasicLines .none [] (dropLineEnd rest)
  | '\'' :: '\'' :: '\'' :: rest => readLiteralLines [] (dropLineEnd rest)
  | '"' :: rest => readBasic [] rest
  | '\'' :: rest => readLiteral [] rest
  | _ => none

end HtmlTemplate.Toml
