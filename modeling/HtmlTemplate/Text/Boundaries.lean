/-!
# Classes of characters by boundaries

A class of characters is a list of code points in increasing order at which membership changes:
the first is the first member, the second the first non-member after it, and so on. The empty
list is the empty class, and a list of odd length is open at the end.
-/

set_option autoImplicit false

namespace HtmlTemplate.Text

/-- Membership of a code point in the class with the given boundaries. -/
def inClass : List Nat → Nat → Bool
  | [], _ => false
  | [first], code => decide (first ≤ code)
  | first :: stop :: rest, code =>
    decide (first ≤ code) && (decide (code < stop) || inClass rest code)

end HtmlTemplate.Text
