import HtmlTemplate.Engine
import HtmlTemplate.Proofs.Views.Directory

/-!
# What settings make of an engine

Settings say which names are known and where views are. An engine goes by them if it knows these
names and no others, and finds a view exactly where the settings put it (`Engine.GoesBy`). There is
one such engine for each file system (`Engine.goesBy_iff`).
-/

set_option autoImplicit false

namespace HtmlTemplate

theorem Views.eq_of_find? {views views' : Views}
    (same : ∀ name outcome, views.find? name = some outcome ↔ views'.find? name = some outcome) :
    views = views' := by
  obtain ⟨find⟩ := views
  obtain ⟨find'⟩ := views'
  have agree : find = find' := funext fun name => Option.ext fun outcome => same name outcome
  rw [agree]

/-- The same views, with what is found under one name said in advance. -/
theorem Views.eq_ite_of_find? {views : Views} {name : String}
    {outcome : Option (Except IoError String)} (found : views.find? name = outcome) :
    views = ⟨fun other => if other = name then outcome else views.find? other⟩ := by
  refine Views.eq_of_find? fun other result => ?_
  dsimp only
  by_cases named : other = name
  · rw [if_pos named, named, found]
  · rw [if_neg named]

namespace Engine

/-- The engine has the settings, knows the built-in statements, the elements of HTML if the settings
say so and the further elements that they name, binds values in the usual way, and finds the view of
a name as the file that the name leads to below the root of the settings, if they have one. -/
structure GoesBy (engine : Engine) (settings : Settings) (fs : FileSystem) : Prop where
  settings_eq : engine.settings = settings
  registry_eq : engine.registry = .ofSteps
    (if settings.elements.html then [.builtins, .htmlElements, .elements settings.elements.extra]
      else [.builtins, .elements settings.elements.extra])
  binders_eq : engine.binders = .standard
  finds : ∀ name outcome, engine.views.find? name = some outcome ↔
    ∃ root path, settings.views.root = some root ∧
      (ViewDirectory.mk root settings.views.extension).pathFor? name = some path ∧
      fs.isFile path = true ∧ fs.readText path = outcome

variable {engine engine' : Engine} {settings : Settings} {fs : FileSystem}

theorem find?_views_ofSettings_iff {name : String} {outcome : Except IoError String} :
    (ofSettings settings fs).views.find? name = some outcome ↔
      ∃ root path, settings.views.root = some root ∧
        (ViewDirectory.mk root settings.views.extension).pathFor? name = some path ∧
        fs.isFile path = true ∧ fs.readText path = outcome := by
  cases named : settings.views.root with
  | none => simp [ofSettings_views_of_no_root fs named, Views.none]
  | some root =>
    rw [ofSettings_views_of_root fs named, ViewDirectory.find?_views_eq_some_iff]
    simp

theorem goesBy_ofSettings (settings : Settings) (fs : FileSystem) :
    (ofSettings settings fs).GoesBy settings fs where
  settings_eq := ofSettings_settings settings fs
  registry_eq := by rw [ofSettings_registry, ElementSettings.registrations_eq_ite]
  binders_eq := ofSettings_binders settings fs
  finds _ _ := find?_views_ofSettings_iff

theorem GoesBy.unique (goes : engine.GoesBy settings fs) (goes' : engine'.GoesBy settings fs) :
    engine = engine' := by
  have views_eq : engine.views = engine'.views := Views.eq_of_find? fun name outcome =>
    (goes.finds name outcome).trans (goes'.finds name outcome).symm
  obtain ⟨⟨registry, binders, views⟩, own⟩ := engine
  obtain ⟨⟨registry', binders', views'⟩, own'⟩ := engine'
  obtain rfl : registry = registry' := goes.registry_eq.trans goes'.registry_eq.symm
  obtain rfl : binders = binders' := goes.binders_eq.trans goes'.binders_eq.symm
  obtain rfl : views = views' := views_eq
  obtain rfl : own = own' := goes.settings_eq.trans goes'.settings_eq.symm
  rfl

theorem goesBy_iff : engine.GoesBy settings fs ↔ engine = ofSettings settings fs := by
  constructor
  · exact fun goes => goes.unique (goesBy_ofSettings settings fs)
  · rintro rfl
    exact goesBy_ofSettings settings fs

end Engine

end HtmlTemplate
