import HtmlTemplate.Span

/-!
# Tokens

The words of a template. Identifiers and white space carry their text, literals the text between
their delimiters; marks are single characters. A lexeme is a token with the span that it was read
from.
-/

set_option autoImplicit false

namespace HtmlTemplate

/-- The single characters with a meaning of their own. -/
inductive Mark
  | comma
  | openParen
  | closeParen
  | openBracket
  | closeBracket
  | equal
  | openBrace
  | closeBrace
  | greaterThan
  | plus
  | colon
deriving DecidableEq, Repr

namespace Mark

def char : Mark → Char
  | comma => ','
  | openParen => '('
  | closeParen => ')'
  | openBracket => '['
  | closeBracket => ']'
  | equal => '='
  | openBrace => '{'
  | closeBrace => '}'
  | greaterThan => '>'
  | plus => '+'
  | colon => ':'

def all : List Mark :=
  [comma, openParen, closeParen, openBracket, closeBracket, equal, openBrace, closeBrace,
   greaterThan, plus, colon]

/-- The mark that is written as `c`. -/
def ofChar? (c : Char) : Option Mark :=
  all.find? fun mark => mark.char = c

end Mark

inductive Token
  | identifier (text : String)
  | whiteSpace (text : String)
  | mark (mark : Mark)
  | quoted (text : String)
  | multiline (text : String)
  | pipe (text : String)
deriving DecidableEq, Repr

namespace Token

def isWhiteSpace : Token → Bool
  | whiteSpace _ => true
  | _ => false

/-- The text that the token carries; marks carry none. -/
def content : Token → Option String
  | identifier text | whiteSpace text | quoted text | multiline text | pipe text => some text
  | mark _ => none

/-- The form in which messages show the token: white space as one space, quoted text in double
quotes whichever quotes it was written in. -/
def text : Token → String
  | identifier text => text
  | whiteSpace _ => " "
  | mark m => m.char.toString
  | quoted text => "\"" ++ text ++ "\""
  | multiline text => "@\"" ++ text ++ "\""
  | pipe text => "|" ++ text

end Token

/-- A token and where it stands in the source. -/
structure Lexeme where
  token : Token
  span : Span
deriving DecidableEq, Repr

namespace Lexeme

def isWhiteSpace (l : Lexeme) : Bool :=
  l.token.isWhiteSpace

end Lexeme

end HtmlTemplate
