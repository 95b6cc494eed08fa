import HtmlTemplate.Entries
import HtmlTemplate.Registry

/-!
# Settings

Where views are found and which elements are known. Every setting has a default. Settings are read
from data with an entry for each of them; entries with other keys are passed over. A section may
also be a list of its settings in their order.
-/

set_option autoImplicit false

namespace HtmlTemplate

/-- The extension of template files. -/
def ViewSettings.standardExtension : String :=
  "plume"

structure ViewSettings where
  /-- The directory of the views, without which there are none. -/
  root : Option String := none
  /-- The extension of their files. -/
  extension : String := ViewSettings.standardExtension
deriving DecidableEq, Repr

structure ElementSettings where
  /-- Whether the elements of HTML are known. -/
  html : Bool := true
  /-- The names of further elements. -/
  extra : List String := []
deriving DecidableEq, Repr

structure Settings where
  views : ViewSettings := {}
  elements : ElementSettings := {}
deriving DecidableEq, Repr

/-- Data that settings are read from. -/
class SettingsSource (α : Type) where
  isNull : α → Bool
  bool? : α → Option Bool
  string? : α → Option String
  items? : α → Option (List α)
  entries? : α → Option (List (String × α))
  /-- Whether the data may stand in an entry that is no setting. -/
  isIgnorable : α → Bool
  /-- Whether the items of a list may outnumber the settings of its section. -/
  allowsSurplus : Bool

namespace SettingsSource

variable {α : Type} [SettingsSource α]

/-- The settings that a section gives, out of those with the given names. -/
def sectionOf? (names : List String) (data : α) : Option (String → Option α) :=
  match entries? data, items? data with
  | some entries, _ =>
    if entries.all fun (key, item) => names.contains key || isIgnorable item then
      some (Entries.find? entries)
    else none
  | none, some items =>
    if names.length < items.length ∧ allowsSurplus α = false then none
    else some (Entries.find? (names.zip items))
  | none, none => none

def strings? (data : α) : Option (List String) :=
  (items? data).bind fun items => items.mapM string?

/-- A text, or null for none. -/
def optionalString? (data : α) : Option (Option String) :=
  if isNull data then some none else (string? data).map some

end SettingsSource

/-- Reads a setting, or takes the default where there is none. -/
def readSetting {α β : Type} (default : β) (read : α → Option β) : Option α → Option β
  | none => some default
  | some data => read data

section

open SettingsSource

variable {α : Type} [SettingsSource α]

def ViewSettings.ofData? (data : α) : Option ViewSettings := do
  let setting ← sectionOf? ["root", "extension"] data
  let root ← readSetting none optionalString? (setting "root")
  let extension ← readSetting ViewSettings.standardExtension string? (setting "extension")
  return ⟨root, extension⟩

def ElementSettings.ofData? (data : α) : Option ElementSettings := do
  let setting ← sectionOf? ["html", "extra"] data
  let html ← readSetting true bool? (setting "html")
  let extra ← readSetting [] strings? (setting "extra")
  return ⟨html, extra⟩

def Settings.ofData? (data : α) : Option Settings := do
  let setting ← sectionOf? ["views", "elements"] data
  let views ← readSetting {} ViewSettings.ofData? (setting "views")
  let elements ← readSetting {} ElementSettings.ofData? (setting "elements")
  return ⟨views, elements⟩

end

/-- The settings with another directory of the views. -/
def Settings.withRoot (settings : Settings) (root : String) : Settings :=
  { settings with views := { settings.views with root := some root } }

/-- The steps that make the elements of the settings known, behind the ways of rendering that there
always are. -/
def ElementSettings.registrations (settings : ElementSettings) : List Registration :=
  .builtins :: ((if settings.html then [.htmlElements] else []) ++ [.elements settings.extra])

theorem ElementSettings.registrations_eq_ite (settings : ElementSettings) :
    settings.registrations =
      if settings.html then [.builtins, .htmlElements, .elements settings.extra]
      else [.builtins, .elements settings.extra] := by
  unfold registrations
  cases settings.html with
  | true => rfl
  | false => rfl

end HtmlTemplate
