import HtmlTemplate.Text.Unprintable

/-!
# Quoting one character in a message

A character is shown as it is when it has a printed form of its own. Quotes and the backslash get
a backslash in front, four controls their usual letters, and everything else its code point in
hexadecimal digits between braces.
-/

set_option autoImplicit false

namespace HtmlTemplate.Text

/-- The code point in lower-case hexadecimal digits, without leading zeros. -/
def hexCode (c : Char) : String :=
  String.ofList (Nat.toDigits 16 c.toNat)

/-- The form in which a message shows `c`. -/
def visible (c : Char) : String :=
  if c = '\x00' then "\\0"
  else if c = '\t' then "\\t"
  else if c = '\r' then "\\r"
  else if c = '\n' then "\\n"
  else if c = '\\' || c = '\'' || c = '"' then "\\" ++ c.toString
  else if inClass Unprintable.extending c.toNat || inClass Unprintable.formless c.toNat then
    "\\u\x7b" ++ hexCode c ++ "\x7d"
  else c.toString

end HtmlTemplate.Text
