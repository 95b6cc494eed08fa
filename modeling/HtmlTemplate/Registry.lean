import HtmlTemplate.Html.Elements
import HtmlTemplate.Text.Lowercase
import Std.Data.TreeMap

/-!
# Renderers by name

A registry says how a statement of some name is rendered. Names are kept and looked up in lower
case. Registering a renderer replaces an earlier one; registering elements gives the general
renderer only to names that have none yet.
-/

set_option autoImplicit false

namespace HtmlTemplate

/-- The ways in which statements are rendered. -/
inductive Renderer
  | doctype
  | input
  /-- The statements of a view in place of the statement. -/
  | inclusion
  /-- Any other element. -/
  | element
deriving DecidableEq, Repr

/-- A kind of renderers with those above among them. -/
class RendererKind (ρ : Type) where
  ofRenderer : Renderer → ρ

instance : RendererKind Renderer := ⟨id⟩

/-- What a registry holds is never looked into, so it may be renderers of any kind. -/
structure Registry (ρ : Type := Renderer) where
  renderers : Std.TreeMap String ρ

/-- One step by which a registry is built. -/
inductive Registration (ρ : Type := Renderer)
  | renderer (name : String) (renderer : ρ)
  | builtins
  | htmlElements
  | elements (names : List String)
deriving DecidableEq, Repr

namespace Registry

variable {ρ : Type}

def empty : Registry ρ :=
  ⟨∅⟩

instance : Inhabited (Registry ρ) := ⟨empty⟩

def setRenderer (registry : Registry ρ) (name : String) (renderer : ρ) : Registry ρ :=
  ⟨registry.renderers.insert (Text.lowercase name) renderer⟩

section

variable [RendererKind ρ]

def addBuiltins (registry : Registry ρ) : Registry ρ :=
  registry.setRenderer "doctype" (RendererKind.ofRenderer .doctype)
    |>.setRenderer "input" (RendererKind.ofRenderer .input)
    |>.setRenderer "partial" (RendererKind.ofRenderer .inclusion)

def addElement (registry : Registry ρ) (name : String) : Registry ρ :=
  ⟨registry.renderers.insertIfNew (Text.lowercase name) (RendererKind.ofRenderer .element)⟩

def addElements (registry : Registry ρ) (names : List String) : Registry ρ :=
  names.foldl addElement registry

def addHtmlElements (registry : Registry ρ) : Registry ρ :=
  registry.addElements Html.elements

def register (registry : Registry ρ) : Registration ρ → Registry ρ
  | .renderer name renderer => registry.setRenderer name renderer
  | .builtins => registry.addBuiltins
  | .htmlElements => registry.addHtmlElements
  | .elements names => registry.addElements names

/-- The registry that some steps build from nothing. -/
def ofSteps (steps : List (Registration ρ)) : Registry ρ :=
  steps.foldl register empty

end

def find? (registry : Registry ρ) (name : String) : Option ρ :=
  registry.renderers[Text.lowercase name]?

def contains (registry : Registry ρ) (name : String) : Bool :=
  registry.renderers.contains (Text.lowercase name)

/-- The registered names in increasing order. -/
def names (registry : Registry ρ) : List String :=
  registry.renderers.keys

def size (registry : Registry ρ) : Nat :=
  registry.renderers.size

def isEmpty (registry : Registry ρ) : Bool :=
  registry.renderers.isEmpty

end Registry

end HtmlTemplate
