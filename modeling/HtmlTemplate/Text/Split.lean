/-!
# Splitting text at a separator

A text splits into the parts between the separators, empty parts included, so there is always one
part more than there are separators.
-/

set_option autoImplicit false

namespace HtmlTemplate.Text

def splitChars (separator : Char) : List Char → List (List Char)
  | [] => [[]]
  | c :: cs =>
    if c = separator then [] :: splitChars separator cs
    else
      match splitChars separator cs with
      | [] => [[c]]
      | part :: rest => (c :: part) :: rest

def splitAt (separator : Char) (s : String) : List String :=
  (splitChars separator s.toList).map String.ofList

end HtmlTemplate.Text
