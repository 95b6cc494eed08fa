import HtmlTemplate.Failure
import HtmlTemplate.Render
import HtmlTemplate.Settings
import HtmlTemplate.Views.Directory

/-!
# Engines

An engine is all that is needed to make pages out of templates and models: settings, and what they
say about rendering.
-/

set_option autoImplicit false

namespace HtmlTemplate

structure Engine extends Environment where
  settings : Settings

namespace Engine

/-- The engine that settings describe, with views from a file system. -/
def ofSettings (settings : Settings) (fs : FileSystem) : Engine where
  settings := settings
  registry := .ofSteps settings.elements.registrations
  binders := .standard
  views :=
    match settings.views.root with
    | some root => ViewDirectory.views ⟨root, settings.views.extension⟩ fs
    | none => .none

section

variable (settings : Settings) (fs : FileSystem)

@[simp] theorem ofSettings_settings : (ofSettings settings fs).settings = settings := rfl

@[simp] theorem ofSettings_registry :
    (ofSettings settings fs).registry = .ofSteps settings.elements.registrations := rfl

@[simp] theorem ofSettings_binders : (ofSettings settings fs).binders = .standard := rfl

variable {settings}

theorem ofSettings_views_of_root {root : String} (named : settings.views.root = some root) :
    (ofSettings settings fs).views =
      ViewDirectory.views ⟨root, settings.views.extension⟩ fs := by
  simp only [ofSettings, named]

theorem ofSettings_views_of_no_root (unnamed : settings.views.root = none) :
    (ofSettings settings fs).views = .none := by
  simp only [ofSettings, unnamed]

end

def parse (source : String) : Except Failure Document :=
  (Document.parse source).mapError fun reason => .parse reason source

def render (engine : Engine) (document : Document) (model : Value) : Except Failure String :=
  (engine.toEnvironment.render model document.roots).mapError .render

/-- The page of a template. -/
def renderSource (engine : Engine) (source : String) (model : Value) : Except Failure String := do
  engine.render (← parse source) model

end Engine

end HtmlTemplate
