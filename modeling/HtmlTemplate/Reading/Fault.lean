import HtmlTemplate.Diagnostic
import HtmlTemplate.Shorthand
import HtmlTemplate.Token

/-!
# Faults of a sequence of lexemes

Why lexemes do not form a document, each with its code, labels and advice. A fault lists what was
called for at its place, from the innermost construct outwards.
-/

set_option autoImplicit false

namespace HtmlTemplate

/-- The deepest level of statements, counting from the document at level zero. -/
def maxNesting : Nat := 128

inductive Delimiter
  | paren
  | bracket
  | brace
deriving DecidableEq, Repr

namespace Delimiter

def opener : Delimiter → Mark
  | paren => .openParen
  | bracket => .openBracket
  | brace => .openBrace

def closer : Delimiter → Mark
  | paren => .closeParen
  | bracket => .closeBracket
  | brace => .closeBrace

end Delimiter

/-- What may come next at some place. -/
inductive Expectation
  | identifier
  | statement
  | child
  | sibling
  | value
  | equal
  | closer (delimiter : Delimiter)
deriving DecidableEq, Repr

namespace Expectation

def text : Expectation → String
  | identifier => "identifier"
  | statement => "statement"
  | child => "statement after `>`"
  | sibling => "statement after `+`"
  | value => "value"
  | equal => "`=` after attribute name"
  | closer delimiter => "`" ++ delimiter.closer.char.toString ++ "`"

/-- The clause that a message adds for what was called for. -/
def clause (expected : List Expectation) : String :=
  ", expected " ++ " or ".intercalate (expected.map text)

end Expectation

inductive Fault
  | unexpected (found : Lexeme) (expected : List Expectation)
  /-- The input ended within a construct that covers the span. -/
  | incomplete (expected : List Expectation) (span : Span)
  | invalidName (reason : ShorthandError) (span : Span)
  /-- The input ended at an offset before the delimiter was closed. -/
  | unclosed (delimiter : Delimiter) (opener : Span) (stop : Nat)
  | tooDeep (opener : Span)
deriving DecidableEq, Repr

namespace Fault

def diagnostic : Fault → Diagnostic
  | unexpected found expected =>
    { code := some .unexpectedToken
      message := "unexpected `" ++ found.token.text ++ "`" ++ Expectation.clause expected
      labels := [.primary found.span "unexpected token"]
      help := some "check the statement syntax near this token" }
  | incomplete expected span =>
    { code := some .incompleteInput
      message := "unexpected end of input" ++ Expectation.clause expected
      labels := [.primary span "incomplete"]
      help := some "complete the statement" }
  | invalidName reason span =>
    { code := some .invalidName
      message := "invalid statement name: " ++ reason.message
      labels := [.primary span Code.invalidName.description]
      help := some "write a tag name with optional `#id` and `.class` parts, e.g. `div#main.wide`" }
  | unclosed delimiter opener stop =>
    { code := some .unclosedDelimiter
      message := "unclosed `" ++ delimiter.opener.char.toString ++ "`"
      labels :=
        [.primary (.emptyAt stop) ("expected `" ++ delimiter.closer.char.toString ++ "`"),
         .secondary opener "opened here"]
      help := some ("add the matching `" ++ delimiter.closer.char.toString ++ "`") }
  | tooDeep opener =>
    { code := some .nestingTooDeep
      message := "statements nested more than " ++ toString maxNesting ++ " levels deep"
      labels := [.primary opener Code.nestingTooDeep.description]
      help := some "flatten the template, e.g. move deep sections into partials" }

end Fault

end HtmlTemplate
