import HtmlTemplate.Settings
import HtmlTemplate.Toml.Data

/-!
# Settings from TOML

An entry that is no setting is passed over if every number in it is in range. The items of a list
behind the last setting of its section are not looked at. A date or a time is a section that gives
no setting.
-/

set_option autoImplicit false

namespace HtmlTemplate

namespace Toml

def asBool? : Toml → Option Bool
  | bool b => some b
  | _ => none

def asString? : Toml → Option String
  | string s => some s
  | _ => none

def asItems? : Toml → Option (List Toml)
  | array items => some items
  | _ => none

def asEntries? : Toml → Option (List (String × Toml))
  | table entries => some entries
  | dateTime => some []
  | _ => none

end Toml

instance : SettingsSource Toml where
  isNull _ := false
  bool? := Toml.asBool?
  string? := Toml.asString?
  items? := Toml.asItems?
  entries? := Toml.asEntries?
  isIgnorable := Toml.isInRange
  allowsSurplus := true

end HtmlTemplate
