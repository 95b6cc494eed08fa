/-!
# Documents

A template is a forest of statements. A statement has a name, positional parameters, attributes
in the order in which they are written, and statements below it. Repeated attribute keys are kept:
which of them counts is decided when the statement is rendered.
-/

set_option autoImplicit false

namespace HtmlTemplate

/-- How a written value is to be understood. -/
inductive ValueKind
  /-- A bare name: a truth value, null or a path into the model. -/
  | keyword
  | quoted
  | multiline
  | pipe
  /-- A path into the model whatever its spelling. -/
  | path
deriving DecidableEq, Repr

namespace ValueKind

def all : List ValueKind :=
  [keyword, quoted, multiline, pipe, path]

/-- Whether the text is used as it is written. -/
def isLiteral : ValueKind → Bool
  | quoted | multiline | pipe => true
  | keyword | path => false

def description : ValueKind → String
  | keyword => "keyword"
  | quoted => "string literal"
  | multiline => "multi-line string literal"
  | pipe => "pipe literal"
  | path => "model path"

end ValueKind

/-- A positional value of a statement. -/
structure Parameter where
  kind : ValueKind
  text : String
deriving DecidableEq, Repr

/-- A value of a statement with a key. -/
structure Attribute where
  key : String
  kind : ValueKind
  text : String
deriving DecidableEq, Repr

/-- A statement with everything below it. -/
structure Node where
  name : String
  parameters : List Parameter
  attributes : List Attribute
  children : List Node
deriving Repr

namespace Node

mutual

/-- The statement and all statements below it. -/
def count : Node → Nat
  | ⟨_, _, _, children⟩ => 1 + countAll children

def countAll : List Node → Nat
  | [] => 0
  | node :: rest => node.count + countAll rest

end

mutual

/-- Equality of statements, children included. -/
def decEq : (a b : Node) → Decidable (a = b)
  | ⟨name, parameters, attributes, children⟩, ⟨name', parameters', attributes', children'⟩ =>
    if own : name = name' ∧ parameters = parameters' ∧ attributes = attributes' then
      match decEqAll children children' with
      | isTrue below => isTrue (by rw [own.1, own.2.1, own.2.2, below])
      | isFalse below => isFalse (by intro equal; injection equal; exact below (by assumption))
    else isFalse (by intro equal; injection equal; simp_all)

def decEqAll : (as bs : List Node) → Decidable (as = bs)
  | [], [] => isTrue rfl
  | [], _ :: _ => isFalse (by simp)
  | _ :: _, [] => isFalse (by simp)
  | a :: as, b :: bs =>
    match decEq a b, decEqAll as bs with
    | isTrue first, isTrue rest => isTrue (by rw [first, rest])
    | isFalse first, _ => isFalse (by simp [first])
    | _, isFalse rest => isFalse (by simp [rest])

end

instance : DecidableEq Node := decEq

end Node

/-- A whole template: its statements outside any other. -/
structure Document where
  roots : List Node
deriving DecidableEq, Repr

namespace Document

def count (d : Document) : Nat :=
  Node.countAll d.roots

def isEmpty (d : Document) : Bool :=
  d.roots.isEmpty

end Document

end HtmlTemplate
