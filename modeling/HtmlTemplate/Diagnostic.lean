import HtmlTemplate.Span

/-!
# Diagnostics

What is wrong with a template: a message with a code, labels on spans of the source and a piece of
advice. A template that cannot be read gives either every lexical diagnostic or the first
syntactic one.
-/

set_option autoImplicit false

namespace HtmlTemplate

/-- The kinds of mistakes that have a code. -/
inductive Code
  | unterminatedString
  | unexpectedCharacter
  | unterminatedMultiline
  | missingQuote
  | unexpectedToken
  | incompleteInput
  | invalidName
  | unclosedDelimiter
  | nestingTooDeep
deriving DecidableEq, Repr

namespace Code

def all : List Code :=
  [unterminatedString, unexpectedCharacter, unterminatedMultiline, missingQuote,
   unexpectedToken, incompleteInput, invalidName, unclosedDelimiter, nestingTooDeep]

/-- The short name that messages show. Codes of the lexer begin with `E0`. -/
def name : Code → String
  | unterminatedString => "E001"
  | unexpectedCharacter => "E002"
  | unterminatedMultiline => "E003"
  | missingQuote => "E004"
  | unexpectedToken => "E100"
  | incompleteInput => "E101"
  | invalidName => "E102"
  | unclosedDelimiter => "E103"
  | nestingTooDeep => "E104"

def description : Code → String
  | unterminatedString => "unterminated string literal"
  | unexpectedCharacter => "unexpected character"
  | unterminatedMultiline => "unterminated multi-line string literal"
  | missingQuote => "missing quote after `@`"
  | unexpectedToken => "unexpected token"
  | incompleteInput => "incomplete input"
  | invalidName => "invalid shorthand name"
  | unclosedDelimiter => "unclosed delimiter"
  | nestingTooDeep => "nesting too deep"

/-- Whether the mistake is in the spelling of a token and not in the order of tokens. -/
def isLexical : Code → Bool
  | unterminatedString | unexpectedCharacter | unterminatedMultiline | missingQuote => true
  | _ => false

end Code

/-- A remark on a span. Primary labels mark the mistake, the others what it is related to. -/
structure Label where
  span : Span
  message : String
  isPrimary : Bool
deriving DecidableEq, Repr

namespace Label

def primary (span : Span) (message : String) : Label :=
  ⟨span, message, true⟩

def secondary (span : Span) (message : String) : Label :=
  ⟨span, message, false⟩

end Label

structure Diagnostic where
  code : Option Code
  message : String
  labels : List Label
  help : Option String
deriving DecidableEq, Repr

namespace Diagnostic

/-- The span of the first primary label. -/
def primarySpan (d : Diagnostic) : Option Span :=
  (d.labels.find? (·.isPrimary)).map (·.span)

def text (d : Diagnostic) : String :=
  match d.code with
  | some code => "error[" ++ code.name ++ "]: " ++ d.message
  | none => "error: " ++ d.message

end Diagnostic

/-- Why a template could not be read. -/
structure ParseError where
  diagnostics : List Diagnostic
deriving DecidableEq, Repr

namespace ParseError

def hasCode (e : ParseError) (code : Code) : Bool :=
  e.diagnostics.any fun d => d.code == some code

def isLexical (e : ParseError) : Bool :=
  e.diagnostics.any fun d => d.code.any (·.isLexical)

/-- The first diagnostic and the number of those after it. -/
def text (e : ParseError) : String :=
  match e.diagnostics with
  | [] => ""
  | [d] => d.text
  | d :: more => d.text ++ " (+" ++ toString more.length ++ " more)"

end ParseError

end HtmlTemplate
