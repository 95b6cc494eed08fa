/-!
# Escaping text in HTML

Five characters have a meaning in the content of an element or in a quoted attribute value. Each is
written as an entity, and every other character as itself.
-/

set_option autoImplicit false

namespace HtmlTemplate.Html

def escapeChar : Char → List Char
  | '&' => ['&', 'a', 'm', 'p', ';']
  | '<' => ['&', 'l', 't', ';']
  | '>' => ['&', 'g', 't', ';']
  | '"' => ['&', 'q', 'u', 'o', 't', ';']
  | '\'' => ['&', '#', '3', '9', ';']
  | c => [c]

def escapeChars (cs : List Char) : List Char :=
  cs.flatMap escapeChar

def escape (s : String) : String :=
  String.ofList (escapeChars s.toList)

end HtmlTemplate.Html
