import HtmlTemplate.Command
import HtmlTemplate.Report

/-!
# The command on a real file system

What the command may read is taken from the disk first, the command runs on that, and the page it
leaves is written back.
-/

set_option autoImplicit false

namespace HtmlTemplate.Main

/-- What the disk has at a location. -/
def entryAt? (location : List String) : IO (Option Entry) := do
  try
    let path ← IO.FS.realPath ("/" ++ "/".intercalate location)
    if ← path.isDir then return some .directory
    return some (.file (← IO.FS.readBinFile path))
  catch _ => return none

/-- Takes an entry of the disk into a file system. -/
def take (fs : FileSystem) (location : List String) : IO FileSystem := do
  match ← entryAt? location with
  | some entry => return fs.set location entry
  | none => return fs

/-- The location that a path names by its form. -/
def locationOf (fs : FileSystem) (path : String) : List String :=
  (Path.components path).foldl (fun location component =>
    match component with
    | .root => []
    | .current => location
    | .parent => location.dropLast
    | .name name => location ++ [name]) fs.workingDirectory

/-- Takes everything on the way to a path, and what is there, into a file system. -/
def takePath (fs : FileSystem) (path : String) : IO FileSystem := do
  let location := locationOf fs path
  (List.range (location.length + 1)).foldlM (fun fs n => take fs (location.take n)) fs

/-- Takes everything below a location into a file system. -/
partial def takeBelow (fs : FileSystem) (location : List String) : IO FileSystem := do
  match fs.entry? location with
  | some .directory =>
    let path ← IO.FS.realPath ("/" ++ "/".intercalate location)
    (← path.readDir).foldlM (fun fs entry => do
      let below := location ++ [entry.fileName]
      takeBelow (← take fs below) below) fs
  | _ => return fs

/-- The directory of settings that the platform has. -/
def platform? : IO (Option String) := do
  match ← IO.getEnv "XDG_CONFIG_HOME", ← IO.getEnv "HOME" with
  | some path, home =>
    if path.startsWith "/" then return some path else return home.map (Path.join · ".config")
  | none, home => return home.map (Path.join · ".config")

/-- The part of the disk that a run of the command may read. -/
def snapshot (platform : Option String) (arguments : Arguments) : IO FileSystem := do
  let start := FileSystem.empty (Text.splitAt '/' (← IO.currentDir).toString |>.filter (· ≠ ""))
  let paths := [arguments.input, arguments.output, Command.settingsPath]
    ++ (platform.map (Path.join · Command.settingsPath)).toList
    ++ arguments.model.toList ++ arguments.config.toList
  let fs ← paths.foldlM takePath start
  let root := match arguments.views, Command.loadSettings fs platform arguments.config with
    | some root, _ => some root
    | none, .ok settings => settings.views.root
    | none, .error _ => none
  match root with
  | some root => do
    let fs ← takePath fs root
    takeBelow fs (locationOf fs root)
  | none => return fs

def run (arguments : Arguments) : IO UInt32 := do
  let platform ← platform?
  let (outcome, after) := Command.run (← snapshot platform arguments) platform arguments
  match outcome, after.readText arguments.output with
  | .ok _, .ok page =>
    IO.FS.writeFile arguments.output page
    return 0
  | .ok _, .error _ => return 0
  | .error failure, _ =>
    for report in failure.reports do
      report.lines.forM IO.eprintln
    return 1

end HtmlTemplate.Main

def main (arguments : List String) : IO UInt32 := do
  match HtmlTemplate.Arguments.ofList arguments with
  | .ok arguments => HtmlTemplate.Main.run arguments
  | .error e =>
    if e.isAnswer then
      IO.println e.message
      return 0
    else
      IO.eprintln ("error: " ++ e.message)
      return 2
