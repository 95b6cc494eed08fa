import HtmlTemplate.Failure

/-!
# Reports

What the user is told about a failure. A template that cannot be read gives one report for each
diagnostic, with the source that the diagnostic is about; any other failure gives a single report.
-/

set_option autoImplicit false

namespace HtmlTemplate

structure Report where
  message : String
  code : Option String
  help : Option String
  /-- The text that the labels are about. -/
  source : Option String
  labels : List Label
  cause : Option String
deriving DecidableEq, Repr

namespace Report

/-- The report of a diagnostic, of a view if one is named. -/
def ofDiagnostic (source : String) (view : Option String) (d : Diagnostic) : Report where
  message := d.message ++ view.elim "" fun view => " (in view `" ++ view ++ "`)"
  code := d.code.map (·.name)
  help := d.help
  source := some source
  labels := d.labels
  cause := none

/-- The report as lines of plain text. -/
def lines (r : Report) : List String :=
  ("error" ++ r.code.elim "" (fun code => "[" ++ code ++ "]") ++ ": " ++ r.message) ::
    (r.labels.map (fun l => "  at " ++ l.span.text ++ ": " ++ l.message) ++
      (r.help.map ("  help: " ++ ·)).toList)

end Report

namespace Failure

/-- The area that a failure belongs to. Templates that cannot be read have codes of their own. -/
def area? : Failure → Option String
  | io _ => some "plume::io"
  | parse .. => none
  | render (.binding _) => some "plume::binding"
  | render (.viewNotFound _) | render (.viewUnreadable ..) | render (.viewMalformed ..)
  | render (.inclusionTooDeep _) => some "plume::view"
  | render _ => some "plume::render"
  | settings _ => some "plume::config"

def help? : Failure → Option String
  | render (.unknownRenderer _) =>
    some "custom elements can be registered under `[elements] extra` in the configuration"
  | render (.viewNotFound _) =>
    some "partials are looked up in the directory given by `--views` or `[views] root`"
  | _ => none

/-- The text of the failure that this one passes on. -/
def cause? : Failure → Option String
  | io reason => some reason.text
  | render reason => some reason.message
  | parse .. | settings _ => none

def reports (failure : Failure) : List Report :=
  match failure with
  | parse reason source => reason.diagnostics.map (.ofDiagnostic source none)
  | render (.viewMalformed view reason source) =>
    reason.diagnostics.map (.ofDiagnostic source (some view))
  | _ =>
    [{ message := failure.message
       code := failure.area?
       help := failure.help?
       source := none
       labels := []
       cause := failure.cause? }]

end Failure

end HtmlTemplate
