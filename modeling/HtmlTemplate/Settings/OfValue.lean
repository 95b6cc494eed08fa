import HtmlTemplate.Settings
import HtmlTemplate.Value

/-!
# Settings from model values

Whatever stands in an entry that is no setting is passed over, and a list never has more items than
its section has settings.
-/

set_option autoImplicit false

namespace HtmlTemplate

namespace Value

def asBool? : Value → Option Bool
  | bool b => some b
  | _ => none

def asString? : Value → Option String
  | string s => some s
  | _ => none

def asItems? : Value → Option (List Value)
  | list items => some items
  | _ => none

def asEntries? : Value → Option (List (String × Value))
  | map entries => some entries
  | _ => none

end Value

instance : SettingsSource Value where
  isNull := Value.isNull
  bool? := Value.asBool?
  string? := Value.asString?
  items? := Value.asItems?
  entries? := Value.asEntries?
  isIgnorable _ := true
  allowsSurplus := false

end HtmlTemplate
