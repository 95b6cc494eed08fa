import HtmlTemplate.Render.Failure

/-!
# Why a page cannot be made

A failure of the whole way from a template to a page: access to a file, the settings or the model,
the template, or its rendering.
-/

set_option autoImplicit false

namespace HtmlTemplate

/-- What is wrong with a file of settings or of a model. -/
inductive SettingsError
  | missing (path : String)
  | malformed
  | malformedModel (path : String)
deriving DecidableEq, Repr

namespace SettingsError

def message : SettingsError → String
  | missing path => "Missing configuration file: " ++ path
  | malformed => "Failed to parse TOML configuration: TOML parse error"
  | malformedModel path => "Failed to parse TOML model " ++ path ++ ": TOML parse error"

end SettingsError

inductive Failure
  | io (reason : IoError)
  | parse (reason : ParseError) (source : String)
  | render (reason : RenderError)
  | settings (reason : SettingsError)
deriving DecidableEq, Repr

namespace Failure

def message : Failure → String
  | io reason => "I/O error: " ++ reason.text
  | parse reason _ => reason.text
  | render reason => "Render error: " ++ reason.message
  | settings reason => "Configuration error: " ++ reason.message

end Failure

end HtmlTemplate
