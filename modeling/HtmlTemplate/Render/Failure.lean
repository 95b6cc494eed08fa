import HtmlTemplate.Binding
import HtmlTemplate.Diagnostic
import HtmlTemplate.IoError

/-!
# Why a document cannot be rendered

Every failure names what caused it: a statement by its name as it is written, or a view.
-/

set_option autoImplicit false

namespace HtmlTemplate

/-- How many views may be open within one another. -/
def maxInclusion : Nat := 32

inductive RenderError
  | unknownRenderer (statement : String)
  | binding (reason : BindingError)
  /-- A renderer for statements of one name was given a statement of another. -/
  | unexpectedStatement (expected found : String)
  | childrenNotAllowed (statement : String)
  | missingParameter (statement : String)
  | viewNotFound (view : String)
  | viewUnreadable (view : String) (reason : IoError)
  | inclusionTooDeep (view : String)
  /-- The source of a view is no template. -/
  | viewMalformed (view : String) (reason : ParseError) (source : String)
deriving DecidableEq, Repr

namespace RenderError

def message : RenderError → String
  | unknownRenderer statement => "no renderer registered for `" ++ statement ++ "`"
  | binding reason => reason.message
  | unexpectedStatement expected found =>
    "the `" ++ expected ++ "` renderer cannot render a `" ++ found ++ "` statement"
  | childrenNotAllowed statement => "`" ++ statement ++ "` cannot have children"
  | missingParameter statement => "`" ++ statement ++ "` requires a parameter"
  | viewNotFound view => "view `" ++ view ++ "` not found"
  | viewUnreadable view reason => "failed to load view `" ++ view ++ "`: " ++ reason.text
  | inclusionTooDeep view =>
    "view `" ++ view ++ "` exceeds the partial nesting limit of " ++ toString maxInclusion
  | viewMalformed view reason _ => "failed to parse view `" ++ view ++ "`: " ++ reason.text

end RenderError

end HtmlTemplate
