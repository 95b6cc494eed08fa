import HtmlTemplate.Text.Split

/-!
# Paths

A path is text with slashes between its parts. Empty parts and single points stand for nothing,
except that a slash at the front is the root and a point at the front of a relative path is the
current directory. What follows the last point of a file name is its extension, if anything
precedes that point.
-/

set_option autoImplicit false

namespace HtmlTemplate.Path

inductive Component
  | root
  | current
  | parent
  | name (name : String)
deriving DecidableEq, Repr

/-- The component that a part of a path stands for behind the front. -/
def component? (part : String) : Option Component :=
  if part = "" || part = "." then none
  else if part = ".." then some .parent
  else some (.name part)

def components (path : String) : List Component :=
  match Text.splitAt '/' path with
  | "" :: rest => (if rest.isEmpty then [] else [.root]) ++ rest.filterMap component?
  | "." :: rest => .current :: rest.filterMap component?
  | parts => parts.filterMap component?

def Component.text : Component → String
  | root => ""
  | current => "."
  | parent => ".."
  | name part => part

/-- A text with the given components. -/
def ofComponents : List Component → String
  | [.root] => "/"
  | components => "/".intercalate (components.map Component.text)

/-- The name of the file that a path leads to, unless it ends at a directory by its form. -/
def fileName? (path : String) : Option String :=
  match (components path).getLast? with
  | some (.name name) => some name
  | _ => none

/-- The text behind the last point of a file name, if something precedes the point. -/
def extension? (fileName : String) : Option String :=
  let reversed := fileName.toList.reverse
  match reversed.dropWhile (· ≠ '.') with
  | _ :: _ :: _ => some (.ofList (reversed.takeWhile (· ≠ '.')).reverse)
  | _ => none

/-- A path below another one. -/
def join (base path : String) : String :=
  if base.isEmpty || base.endsWith "/" then base ++ path else base ++ "/" ++ path

/-- The path with another file name. -/
def withFileName (path name : String) : String :=
  ofComponents ((components path).dropLast ++ [.name name])

end HtmlTemplate.Path
