import HtmlTemplate.Node

/-!
# Shorthand names

A statement is named the way a selector names an element: a tag, and behind it an identity after
`#` and classes after `.`, in any order. Signs with nothing behind them count for nothing, and
without a tag the statement is a `div`.
-/

set_option autoImplicit false

namespace HtmlTemplate

structure Shorthand where
  tag : String
  id : Option String
  classes : List String
deriving DecidableEq, Repr

inductive ShorthandError
  | empty
  | repeatedId
deriving DecidableEq, Repr

namespace ShorthandError

def message : ShorthandError → String
  | empty => "statement name has no tag, id or class"
  | repeatedId => "statement name has more than one `#id`"

end ShorthandError

namespace Shorthand

def isSign (c : Char) : Bool :=
  c = '#' || c = '.'

/-- The text before the first sign, and the text behind each sign up to the next one. -/
def split : List Char → List Char × List (Char × List Char)
  | [] => ([], [])
  | c :: cs =>
    let (head, parts) := split cs
    if isSign c then ([], (c, head) :: parts) else (c :: head, parts)

/-- The texts that are not empty among those behind `sign`. -/
def partsAfter (sign : Char) (parts : List (Char × List Char)) : List String :=
  (parts.filter fun part => part.1 = sign && !part.2.isEmpty).map fun part => .ofList part.2

def defaultTag : String :=
  "div"

def expand (name : String) : Except ShorthandError Shorthand :=
  let (tag, parts) := split name.toList
  let classes := partsAfter '.' parts
  match partsAfter '#' parts with
  | _ :: _ :: _ => .error .repeatedId
  | [id] => .ok ⟨if tag.isEmpty then defaultTag else .ofList tag, some id, classes⟩
  | [] =>
    if tag.isEmpty && classes.isEmpty then .error .empty
    else .ok ⟨if tag.isEmpty then defaultTag else .ofList tag, none, classes⟩

/-- The attributes that the name stands for. -/
def attributes (s : Shorthand) : List Attribute :=
  (s.id.toList.map fun id => ⟨"id", .quoted, id⟩) ++
    if s.classes.isEmpty then [] else [⟨"class", .quoted, " ".intercalate s.classes⟩]

end Shorthand

end HtmlTemplate
