import HtmlTemplate.Text.Alphabetic
import HtmlTemplate.Text.Numeric

/-!
# Character classes of template text

White space and line ends as Unicode defines them, letters and numbers by property, and the
classes that names are written with. A name starts with a head character and goes on with tail
characters; every head character is a tail character too.
-/

set_option autoImplicit false

namespace HtmlTemplate.Text

def isAlphabetic (c : Char) : Bool :=
  inClass Alphabetic.boundaries c.toNat

def isNumeric (c : Char) : Bool :=
  inClass Numeric.boundaries c.toNat

/-- The property White_Space. -/
def isWhiteSpace (c : Char) : Bool :=
  inClass
    [0x9, 0xe, 0x20, 0x21, 0x85, 0x86, 0xa0, 0xa1, 0x1680, 0x1681, 0x2000, 0x200b,
     0x2028, 0x202a, 0x202f, 0x2030, 0x205f, 0x2060, 0x3000, 0x3001] c.toNat

/-- Carriage return, line feed, next line, line separator and paragraph separator. -/
def isLineEnd (c : Char) : Bool :=
  c = '\r' || c = '\n' || c = '\u0085' || c = '\u2028' || c = '\u2029'

/-- Marks that combine with the character before them and may stand inside a name. -/
def isCombining (c : Char) : Bool :=
  inClass
    [0x300, 0x370, 0x483, 0x48a, 0x591, 0x5be, 0x610, 0x61b, 0x64b, 0x660, 0x900, 0x904,
     0x93a, 0x950, 0x1ab0, 0x1b00, 0x1dc0, 0x1e00, 0x20d0, 0x2100, 0x302a, 0x3030,
     0x3099, 0x309b, 0xfe00, 0xfe10, 0xfe20, 0xfe30] c.toNat

/-- Connecting punctuation other than the low line. -/
def isConnector (c : Char) : Bool :=
  inClass
    [0x203f, 0x2041, 0x2054, 0x2055, 0xfe33, 0xfe35, 0xfe4d, 0xfe50, 0xff3f, 0xff40] c.toNat

/-- Invisible characters that may stand inside a name. -/
def isFormat (c : Char) : Bool :=
  inClass [0xad, 0xae, 0x200b, 0x2010, 0x2060, 0x2065, 0xfeff, 0xff00] c.toNat

def isNameHead (c : Char) : Bool :=
  isAlphabetic c || c = '_' || c = '#' || c = '.'

def isNameTail (c : Char) : Bool :=
  isNameHead c || isNumeric c || c = ':' || c = '-' || isCombining c || isConnector c || isFormat c

/-- The characters left when white space is taken off the end. -/
def trimEnd (cs : List Char) : List Char :=
  (cs.reverse.dropWhile isWhiteSpace).reverse

/-- The text without white space at either end. -/
def trim (s : String) : String :=
  String.ofList (trimEnd (s.toList.dropWhile isWhiteSpace))

end HtmlTemplate.Text
