import HtmlTemplate.FileSystem
import HtmlTemplate.Views

/-!
# Views in a directory

A view is named by a plain path below a root directory. The extension of template files is put
behind a name that does not have it. A name that could leave the directory names no view.
-/

set_option autoImplicit false

namespace HtmlTemplate

structure ViewDirectory where
  root : String
  extension : String
deriving DecidableEq, Repr

namespace ViewDirectory

/-- Whether a path has components and all of them are names. -/
def isPlain (name : String) : Bool :=
  let components := Path.components name
  !components.isEmpty && components.all fun component =>
    match component with
    | .name _ => true
    | _ => false

/-- The file that holds the view of a name. -/
def pathFor? (directory : ViewDirectory) (name : String) : Option String :=
  if isPlain name then
    let path := Path.join directory.root name
    (Path.fileName? path).map fun fileName =>
      if directory.extension.isEmpty || Path.extension? fileName = some directory.extension then
        path
      else Path.withFileName path (fileName ++ "." ++ directory.extension)
  else none

/-- The views that a file system holds below the directory. -/
def views (directory : ViewDirectory) (fs : FileSystem) : Views where
  find? name :=
    match directory.pathFor? name with
    | some path => if fs.isFile path then some (fs.readText path) else none
    | none => none

end ViewDirectory

end HtmlTemplate
