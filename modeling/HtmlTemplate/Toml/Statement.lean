import HtmlTemplate.Toml.Quoted
import HtmlTemplate.Toml.Scalar

/-!
# Statements of TOML

A text is a row of statements, one to a line: headers of tables, and keys with their values. Arrays
and tables in braces may go over several lines, with comments between their parts and a comma behind
the last of them. In braces a line may also end around the sign of a pair, but never within a key.

Each step of a reader takes at least one character, so as many steps as there are characters
suffice.
-/

set_option autoImplicit false

namespace HtmlTemplate.Toml

/-- The deepest nesting of arrays and tables in braces, and the parts of the longest key. -/
def maxDepth : Nat := 80

/-- A key with points in it: the way to a table and the last part. -/
structure Key where
  path : List String
  name : String
deriving DecidableEq, Repr

/-- A value as it is written. -/
inductive Written
  | scalar (value : Toml)
  | array (items : List Written)
  | table (pairs : List (Key × Written))

inductive Statement
  | header (key : Key)
  /-- The header of one more table of an array. -/
  | itemHeader (key : Key)
  | pair (key : Key) (value : Written)

def skipBlanks (cs : List Char) : List Char :=
  cs.dropWhile isBlank

/-- What follows white space, line ends and comments, within a comment or not. -/
def skipLines (comment : Bool) : List Char → Option (List Char)
  | [] => some []
  | '\n' :: rest => skipLines false rest
  | '\r' :: '\n' :: rest => skipLines false rest
  | c :: rest =>
    if comment then (if isPlain c then skipLines true rest else none)
    else if isBlank c then skipLines false rest
    else if c = '#' then skipLines true rest
    else some (c :: rest)

/-- What follows the end of a line, in front of which only blanks and a comment may stand. -/
def endLine (comment : Bool) : List Char → Option (List Char)
  | [] => some []
  | '\n' :: rest => some rest
  | '\r' :: '\n' :: rest => some rest
  | c :: rest =>
    if comment then (if isPlain c then endLine true rest else none)
    else if isBlank c then endLine false rest
    else if c = '#' then endLine true rest
    else none

def isBareKeyChar (c : Char) : Bool :=
  c.isAlphanum || c = '_' || c = '-'

/-- The part of a key at the front of a text and what follows it. -/
def readKeyPart (cs : List Char) : Option (String × List Char) :=
  match cs with
  | '"' :: rest => readBasic [] rest
  | '\'' :: rest => readLiteral [] rest
  | _ =>
    match cs.takeWhile isBareKeyChar with
    | [] => none
    | name => some (.ofList name, cs.dropWhile isBareKeyChar)

/-- The parts of a key at the front of a text, and what follows them and blanks. -/
def readKeyParts (steps : Nat) (cs : List Char) : Option (Key × List Char) :=
  match steps, readKeyPart cs with
  | steps + 1, some (name, rest) =>
    match skipBlanks rest with
    | '.' :: rest =>
      (readKeyParts steps (skipBlanks rest)).map fun (key, rest) =>
        (⟨name :: key.path, key.name⟩, rest)
    | rest => some (⟨[], name⟩, rest)
  | _, _ => none

/-- The key at the front of a text, and what follows it and blanks. -/
def readKey (steps : Nat) (cs : List Char) : Option (Key × List Char) :=
  (readKeyParts steps cs).filter fun (key, _) => key.path.length < maxDepth

/-- The key of a pair, and what follows the sign behind it and blanks. -/
def readKeySign (steps : Nat) (cs : List Char) : Option (Key × List Char) :=
  match readKey steps cs with
  | some (key, '=' :: rest) => some (key, skipBlanks rest)
  | _ => none

/-- The key of a pair in braces, and what follows the sign behind it, with line ends and comments
before and behind the sign. -/
def readKeySignLines (steps : Nat) (cs : List Char) : Option (Key × List Char) := do
  let (key, rest) ← readKey steps cs
  let '=' :: rest ← skipLines false rest | none
  return (key, ← skipLines false rest)

mutual

/-- The value at the front of a text and what follows it, in at most `steps` steps and with at most
`depth` arrays and tables within one another. -/
def readValue (steps depth : Nat) (cs : List Char) : Option (Written × List Char) :=
  match steps, cs with
  | 0, _ => none
  | steps + 1, '[' :: rest =>
    match depth with
    | 0 => none
    | depth + 1 => (readItems steps depth rest).map fun (items, rest) => (.array items, rest)
  | steps + 1, '\x7b' :: rest =>
    match depth with
    | 0 => none
    | depth + 1 => (readPairs steps depth rest).map fun (pairs, rest) => (.table pairs, rest)
  | _ + 1, cs =>
    match readQuoted cs with
    | some (s, rest) => some (.scalar (.string s), rest)
    | none => (readScalar cs).map fun (value, rest) => (.scalar value, rest)

/-- The items of an array up to its end. -/
def readItems (steps depth : Nat) (cs : List Char) : Option (List Written × List Char) :=
  match steps, skipLines false cs with
  | _ + 1, some (']' :: rest) => some ([], rest)
  | steps + 1, some cs =>
    match readValue steps depth cs with
    | none => none
    | some (item, rest) =>
      match skipLines false rest with
      | some (']' :: rest) => some ([item], rest)
      | some (',' :: rest) =>
        (readItems steps depth rest).map fun (items, rest) => (item :: items, rest)
      | _ => none
  | _, _ => none

/-- The pairs of a table in braces up to its end. -/
def readPairs (steps depth : Nat) (cs : List Char) : Option (List (Key × Written) × List Char) :=
  match steps, skipLines false cs with
  | _ + 1, some ('\x7d' :: rest) => some ([], rest)
  | steps + 1, some cs =>
    match readKeySignLines steps cs with
    | none => none
    | some (key, rest) =>
      match readValue steps depth rest with
      | none => none
      | some (value, rest) =>
        match skipLines false rest with
        | some ('\x7d' :: rest) => some ([(key, value)], rest)
        | some (',' :: rest) =>
          (readPairs steps depth rest).map fun (pairs, rest) => ((key, value) :: pairs, rest)
        | _ => none
  | _, _ => none

end

/-- The statement at the front of a text and what follows it. -/
def readStatement (steps : Nat) (cs : List Char) : Option (Statement × List Char) :=
  match cs with
  | '[' :: '[' :: rest =>
    match readKey steps (skipBlanks rest) with
    | some (key, ']' :: ']' :: rest) => some (.itemHeader key, rest)
    | _ => none
  | '[' :: rest =>
    match readKey steps (skipBlanks rest) with
    | some (key, ']' :: rest) => some (.header key, rest)
    | _ => none
  | _ => do
    let (key, rest) ← readKeySign steps cs
    let (value, rest) ← readValue steps maxDepth rest
    return (.pair key value, rest)

/-- All statements of a text. -/
def readStatements (steps : Nat) (cs : List Char) : Option (List Statement) :=
  match steps, skipLines false cs with
  | _ + 1, some [] => some []
  | steps + 1, some cs =>
    match readStatement steps cs with
    | none => none
    | some (statement, rest) =>
      match endLine false rest with
      | none => none
      | some rest => (readStatements steps rest).map (statement :: ·)
  | _, _ => none

/-- The statements of a text. A byte order mark in front of it counts for nothing. -/
def statements? (text : String) : Option (List Statement) :=
  let cs := match text.toList with
    | '\ufeff' :: rest => rest
    | cs => cs
  readStatements (cs.length + 2) cs

end HtmlTemplate.Toml
