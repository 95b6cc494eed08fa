import HtmlTemplate.Entries
import HtmlTemplate.Html.Escape
import HtmlTemplate.Text.Character

/-!
# Building one element

An element has a name, attributes and content. An attribute that is set again changes its value and
keeps its place, but the classes of an element add up. Values and text are escaped; markup that is
appended is taken as it is.
-/

set_option autoImplicit false

namespace HtmlTemplate.Html

structure Tag where
  name : String
  attributes : Entries String
  content : String
deriving DecidableEq, Repr

namespace Tag

def new (name : String) : Tag :=
  ⟨name, [], ""⟩

def setAttribute (tag : Tag) (key value : String) : Tag :=
  { tag with attributes := tag.attributes.insert key value }

def attribute? (tag : Tag) (key : String) : Option String :=
  tag.attributes.find? key

/-- A class list with further classes behind it. -/
def joinClasses (classes : String) : Option String → String
  | none => classes
  | some earlier => if earlier.isEmpty then classes else earlier ++ " " ++ classes

/-- Adds classes, unless the text has nothing but white space. -/
def addClass (tag : Tag) (text : String) : Tag :=
  let classes := Text.trim text
  if classes.isEmpty then tag
  else { tag with attributes := tag.attributes.alter "class" (joinClasses classes) }

def appendText (tag : Tag) (text : String) : Tag :=
  { tag with content := tag.content ++ escape text }

def appendHtml (tag : Tag) (html : String) : Tag :=
  { tag with content := tag.content ++ html }

/-- The attributes as they stand in the opening of the element. -/
def attributesText : Entries String → String
  | [] => ""
  | (key, value) :: rest => " " ++ key ++ "=\"" ++ escape value ++ "\"" ++ attributesText rest

def opening (tag : Tag) : String :=
  "<" ++ tag.name ++ attributesText tag.attributes

/-- The element with its content and its end. -/
def render (tag : Tag) : String :=
  tag.opening ++ ">" ++ tag.content ++ "</" ++ tag.name ++ ">"

/-- The element without content. -/
def renderSelfClosing (tag : Tag) : String :=
  tag.opening ++ " />"

end Tag

end HtmlTemplate.Html
