import HtmlTemplate.Command.Arguments
import HtmlTemplate.Engine
import HtmlTemplate.Settings.OfToml
import HtmlTemplate.Toml.Table
import HtmlTemplate.Value.OfToml

/-!
# The command

The command makes a page out of files and writes it to a file. It loads the settings, the model and
the template in this order, and the first of them that fails ends it. Nothing is written before the
page is complete.
-/

set_option autoImplicit false

namespace HtmlTemplate.Command

/-- Where settings are looked for in the working directory, and in the directory of settings that
the platform has. -/
def settingsPath : String :=
  "plume/config.toml"

def readText (fs : FileSystem) (path : String) : Except Failure String :=
  (fs.readText path).mapError .io

/-- The settings in a file. -/
def settingsIn (fs : FileSystem) (path : String) : Except Failure Settings := do
  if !fs.exists? path then .error (.settings (.missing path))
  else
    let text ← readText fs path
    match (Toml.parse? text).bind Settings.ofData? with
    | some settings => .ok settings
    | none => .error (.settings .malformed)

/-- The settings in the file that is asked for, or else in the first that there is, or else the
default ones. -/
def loadSettings (fs : FileSystem) (platform : Option String) :
    Option String → Except Failure Settings
  | some path => settingsIn fs path
  | none =>
    let places := settingsPath :: (platform.map (Path.join · settingsPath)).toList
    match places.find? fs.exists? with
    | some path => settingsIn fs path
    | none => .ok {}

/-- The model in a file, or null without one. -/
def loadModel (fs : FileSystem) : Option String → Except Failure Value
  | none => .ok .null
  | some path => do
    match (Toml.parse? (← readText fs path)).bind Value.ofToml? with
    | some model => .ok model
    | none => .error (.settings (.malformedModel path))

/-- The page that the command makes. -/
def page (fs : FileSystem) (platform : Option String) (arguments : Arguments) :
    Except Failure String := do
  let settings ← loadSettings fs platform arguments.config
  let settings := arguments.views.elim settings settings.withRoot
  let model ← loadModel fs arguments.model
  let source ← readText fs arguments.input
  (Engine.ofSettings settings fs).renderSource source model

/-- Runs the command. The second part of the result is the file system that it leaves. -/
def run (fs : FileSystem) (platform : Option String) (arguments : Arguments) :
    Except Failure Unit × FileSystem :=
  match page fs platform arguments with
  | .error failure => (.error failure, fs)
  | .ok html =>
    match fs.writeText arguments.output html with
    | .error reason => (.error (.io reason), fs)
    | .ok written => (.ok (), written)

end HtmlTemplate.Command
