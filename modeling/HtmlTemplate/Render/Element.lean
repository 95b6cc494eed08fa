import HtmlTemplate.Html.Elements
import HtmlTemplate.Html.Tag
import HtmlTemplate.Render.Failure

/-!
# From statements to elements

The attributes of a statement are bound one after the other and put on the element. Classes add up;
any other attribute takes its last value, but one that is false, or a bare null, is passed over and
takes nothing back. Parameters become escaped text in front of the children.
-/

set_option autoImplicit false

namespace HtmlTemplate

namespace Html.Tag

/-- Adds the classes that a bound value stands for. -/
def addBoundClass (tag : Tag) : Value → Tag
  | .null | .bool false => tag
  | value => tag.addClass value.text

/-- Sets an attribute to a bound value. A true value is written as the key itself. -/
def setBound (tag : Tag) (key : String) (kind : ValueKind) : Value → Tag
  | .bool true => tag.setAttribute key key
  | .bool false => tag
  | .null => if kind = .keyword then tag else tag.setAttribute key ""
  | value => tag.setAttribute key value.text

/-- Puts a bound attribute on an element. -/
def addBound (tag : Tag) (key : String) (kind : ValueKind) (value : Value) : Tag :=
  if Text.sameIgnoringAsciiCase key "class" then tag.addBoundClass value
  else tag.setBound key kind value

end Html.Tag

namespace Binders

/-- The value of a written value as part of a rendering. -/
def bind (binders : Binders) (model : Value) (kind : ValueKind) (text : String) :
    Except RenderError Value :=
  (binders.resolve model kind text).mapError .binding

/-- Binds attributes and puts them on an element, in order. -/
def addAttributes (binders : Binders) (model : Value) (tag : Html.Tag)
    (attributes : List Attribute) : Except RenderError Html.Tag :=
  attributes.foldlM (fun tag a => do
    return tag.addBound a.key a.kind (← binders.bind model a.kind a.text)) tag

/-- Binds parameters and appends their texts to an element, in order. -/
def addParameters (binders : Binders) (model : Value) (tag : Html.Tag)
    (parameters : List Parameter) : Except RenderError Html.Tag :=
  parameters.foldlM (fun tag p => do
    return tag.appendText (← binders.bind model p.kind p.text).text) tag

end Binders

namespace Html

def isVoid (name : String) : Bool :=
  voidElements.contains name

end Html

end HtmlTemplate
