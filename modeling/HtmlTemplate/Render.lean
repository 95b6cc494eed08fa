import HtmlTemplate.Node
import HtmlTemplate.Reading
import HtmlTemplate.Registry
import HtmlTemplate.Render.Element
import HtmlTemplate.Views

/-!
# Rendering

A statement is rendered in the way that the registry holds for its name, and statements that stand
side by side are rendered one after the other. The first failure ends the rendering, and nothing of
the page is left then.

A statement that includes a view is rendered to the statements of the view. How views are included
is a parameter of the recursion over a tree, and the recursion over the number of views that may
still be opened supplies it, so views that include one another come to an end.
-/

set_option autoImplicit false

namespace HtmlTemplate

/-- What a rendering looks things up in. -/
structure Environment where
  registry : Registry
  binders : Binders
  views : Views

/-- The page of a view, by its name, against a model. -/
abbrev Inclusion : Type :=
  String → Value → Except RenderError String

namespace Node

/-- Whether a statement has a name up to the case of ASCII letters. -/
def isNamed (node : Node) (name : String) : Bool :=
  Text.sameIgnoringAsciiCase node.name name

/-- Refuses a statement that does not have the name `expected`. -/
def expectNamed (node : Node) (expected : String) : Except RenderError Unit :=
  if node.isNamed expected then .ok ()
  else .error (.unexpectedStatement expected node.name)

/-- Refuses a statement with children. -/
def expectChildless (node : Node) : Except RenderError Unit :=
  if node.children.isEmpty then .ok () else .error (.childrenNotAllowed node.name)

end Node

namespace Environment

/-- The document type: the first parameter as it is written. -/
def renderDoctype (node : Node) : Except RenderError String := do
  node.expectNamed "doctype"
  let kind := (node.parameters.head?.map (·.text)).getD "html"
  return "<!DOCTYPE " ++ kind ++ ">"

/-- An input element, whose value is its only parameter as it is written. -/
def renderInput (env : Environment) (model : Value) (node : Node) : Except RenderError String := do
  node.expectNamed "input"
  node.expectChildless
  let tag ← env.binders.addAttributes model (.new "input") node.attributes
  match node.parameters with
  | [value] => return (tag.setAttribute "value" value.text).renderSelfClosing
  | _ => return tag.renderSelfClosing

/-- The view that the first parameter names, against the model or the part of it that a second
parameter stands for. -/
def renderInclusion (env : Environment) (inclusion : Inclusion) (model : Value) (node : Node) :
    Except RenderError String := do
  node.expectNamed "partial"
  match node.parameters with
  | [] => .error (.missingParameter node.name)
  | [view] => inclusion view.text model
  | view :: part :: _ => inclusion view.text (← env.binders.bind model part.kind part.text)

mutual

/-- Renders a statement in a given way. -/
def renderAs (env : Environment) (inclusion : Inclusion) (model : Value) (renderer : Renderer) :
    Node → Except RenderError String
  | ⟨name, parameters, attributes, children⟩ =>
    let node : Node := ⟨name, parameters, attributes, children⟩
    match renderer with
    | .doctype => renderDoctype node
    | .input => env.renderInput model node
    | .inclusion => env.renderInclusion inclusion model node
    | .element => do
      let element := Text.lowercase name
      if Html.isVoid element then
        node.expectChildless
        let tag ← env.binders.addAttributes model (.new element) attributes
        return tag.renderSelfClosing
      else
        let tag ← env.binders.addAttributes model (.new element) attributes
        let tag ← env.binders.addParameters model tag parameters
        return (tag.appendHtml (← env.renderAll inclusion model children)).render

/-- Renders statements in the ways that the registry holds for their names. -/
def renderAll (env : Environment) (inclusion : Inclusion) (model : Value) :
    List Node → Except RenderError String
  | [] => .ok ""
  | node :: rest =>
    match env.registry.find? node.name with
    | none => .error (.unknownRenderer node.name)
    | some renderer => do
      let html ← env.renderAs inclusion model renderer node
      return html ++ (← env.renderAll inclusion model rest)

end

/-- Includes a view where only so many more views may be opened. -/
def includeView (env : Environment) : Nat → Inclusion
  | 0, name, _ => .error (.inclusionTooDeep name)
  | more + 1, name, model =>
    match env.views.find? name with
    | none => .error (.viewNotFound name)
    | some (.error reason) => .error (.viewUnreadable name reason)
    | some (.ok source) =>
      match Document.parse source with
      | .error reason => .error (.viewMalformed name reason source)
      | .ok document => env.renderAll (env.includeView more) model document.roots

/-- Renders a statement outside any view in a given way. -/
def renderStatement (env : Environment) (model : Value) (renderer : Renderer) (node : Node) :
    Except RenderError String :=
  env.renderAs (env.includeView maxInclusion) model renderer node

/-- Renders statements outside any view. -/
def render (env : Environment) (model : Value) (nodes : List Node) : Except RenderError String :=
  env.renderAll (env.includeView maxInclusion) model nodes

end Environment

end HtmlTemplate
