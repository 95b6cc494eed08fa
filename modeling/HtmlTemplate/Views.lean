import HtmlTemplate.Entries
import HtmlTemplate.IoError

/-!
# Views

A view is a template with a name that others include. Finding a view and reading its source are
two steps, and each may fail in its own way: there may be no view of a name, and the source of a
view that there is may not be readable.
-/

set_option autoImplicit false

namespace HtmlTemplate

structure Views where
  /-- The outcome of reading the view of a name, if there is such a view. -/
  find? : String → Option (Except IoError String)

namespace Views

def none : Views where
  find? _ := Option.none

instance : Inhabited Views := ⟨none⟩

/-- Views held as text. -/
def ofTexts (sources : Entries String) : Views where
  find? name := (sources.find? name).map .ok

/-- Views held as bytes, or as the failure to open them. -/
def ofBytes (sources : Entries (Except IoError ByteArray)) : Views where
  find? name := (sources.find? name).map fun source => source.bind decodeText

end Views

end HtmlTemplate
