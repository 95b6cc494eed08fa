/-!
# Arguments of the command

The command takes the path of a template, and options by a long name or a letter. The value of an
option is attached to it or the next argument, and it counts only once something else follows or
the arguments end: it is then that an option without a value, or one that was given before, is
found wanting. Behind two hyphens every argument is a path.
-/

set_option autoImplicit false

namespace HtmlTemplate

structure Arguments where
  input : String
  output : String
  model : Option String
  config : Option String
  views : Option String
  logLevel : String
deriving DecidableEq, Repr

inductive UsageError
  | missingInput
  | unknownArgument
  | missingValue
  | repeated
  /-- A value is attached to an option that takes none. -/
  | unwantedValue
  | helpWanted
  | versionWanted
deriving DecidableEq, Repr

namespace UsageError

def message : UsageError → String
  | missingInput => "the path of a template is required"
  | unknownArgument => "unknown argument"
  | missingValue => "an option has no value"
  | repeated => "an option is given more than once"
  | unwantedValue => "an option takes no value"
  | helpWanted =>
    "usage: [OPTIONS] INPUT\n\n" ++
      "  -o, --output FILE      the page to write, out.html by default\n" ++
      "  -m, --model FILE       the model to render against\n" ++
      "  -c, --config FILE      the settings\n" ++
      "      --views DIRECTORY  where views are found\n" ++
      "      --log-level LEVEL  how much is logged, info by default\n" ++
      "  -h, --help             this text\n" ++
      "  -V, --version          the version"
  | versionWanted => "0.1.0"

/-- Whether the user asked for the message. -/
def isAnswer : UsageError → Bool
  | helpWanted | versionWanted => true
  | _ => false

end UsageError

namespace Arguments

/-- The options with a value. -/
inductive Setting
  | output
  | model
  | config
  | views
  | logLevel
deriving DecidableEq, Repr

/-- The options without one. -/
inductive Request
  | help
  | version
deriving DecidableEq, Repr

inductive Switch
  | setting (setting : Setting)
  | request (request : Request)
deriving DecidableEq, Repr

namespace Switch

def ofName? : String → Option Switch
  | "output" => some (setting .output)
  | "model" => some (setting .model)
  | "config" => some (setting .config)
  | "views" => some (setting .views)
  | "log-level" => some (setting .logLevel)
  | "help" => some (request .help)
  | "version" => some (request .version)
  | _ => none

def ofLetter? : Char → Option Switch
  | 'o' => some (setting .output)
  | 'm' => some (setting .model)
  | 'c' => some (setting .config)
  | 'h' => some (request .help)
  | 'V' => some (request .version)
  | _ => none

end Switch

/-- What an argument is by its form. -/
inductive Form
  | plain
  /-- Two hyphens and nothing else. -/
  | divider
  /-- An option, if there is such a one, and the text attached to it. -/
  | option (switch : Option Switch) (attached : Option String)
deriving DecidableEq, Repr

/-- The text attached to the letter of an option, with an equals sign in front of it or not. -/
def attachedToLetter : List Char → Option String
  | [] => none
  | '=' :: rest => some (.ofList rest)
  | rest => some (.ofList rest)

/-- The text behind the first equals sign. -/
def attachedToName (cs : List Char) : Option String :=
  match cs.dropWhile (· ≠ '=') with
  | [] => none
  | _ :: rest => some (.ofList rest)

namespace Form

def ofArgument (argument : String) : Form :=
  match argument.toList with
  | ['-', '-'] => divider
  | '-' :: '-' :: rest =>
    option (Switch.ofName? (.ofList (rest.takeWhile (· ≠ '=')))) (attachedToName rest)
  | '-' :: letter :: rest => option (Switch.ofLetter? letter) (attachedToLetter rest)
  | _ => plain

end Form

/-- The arguments read so far. -/
structure Scan where
  input : Option String
  given : List (Setting × String)
  /-- The last option, with its value if that has come, until it counts. -/
  pending : Option (Setting × Option String)
  onlyPaths : Bool
deriving DecidableEq, Repr

namespace Scan

def start : Scan :=
  ⟨none, [], none, false⟩

def give (s : Scan) (setting : Setting) (value : String) : Except UsageError Scan :=
  if (s.given.lookup setting).isSome then .error .repeated
  else .ok { s with given := (setting, value) :: s.given }

/-- Makes the last option count. -/
def settle (s : Scan) : Except UsageError Scan :=
  match s.pending with
  | none => .ok s
  | some (_, none) => .error .missingValue
  | some (setting, some value) => { s with pending := none }.give setting value

def stepPath (s : Scan) (path : String) : Except UsageError Scan :=
  if s.input.isSome then .error .unknownArgument
  else do return { ← s.settle with input := some path }

def stepOption (s : Scan) (switch : Option Switch) (attached : Option String) :
    Except UsageError Scan :=
  match switch, attached with
  | none, _ => .error .unknownArgument
  | some (.request _), some _ => .error .unwantedValue
  | some (.request request), none => do
    let _ ← s.settle
    .error (match request with
      | .help => .helpWanted
      | .version => .versionWanted)
  | some (.setting setting), some value => do (← s.settle).give setting value
  | some (.setting setting), none => do return { ← s.settle with pending := some (setting, none) }

/-- Reads one argument. -/
def step (s : Scan) (argument : String) : Except UsageError Scan :=
  if s.onlyPaths then s.stepPath argument
  else
    match Form.ofArgument argument, s.pending with
    | .divider, _ => .ok { s with onlyPaths := true }
    | .option switch attached, _ => s.stepOption switch attached
    | .plain, some (setting, none) => .ok { s with pending := some (setting, some argument) }
    | .plain, _ => s.stepPath argument

def finish (s : Scan) : Except UsageError Arguments := do
  let s ← s.settle
  match s.input with
  | none => .error .missingInput
  | some input =>
    .ok
      { input := input
        output := (s.given.lookup .output).getD "out.html"
        model := s.given.lookup .model
        config := s.given.lookup .config
        views := s.given.lookup .views
        logLevel := (s.given.lookup .logLevel).getD "info" }

end Scan

/-- The arguments of a command line without the name of the command. -/
def ofList (arguments : List String) : Except UsageError Arguments := do
  (← arguments.foldlM Scan.step .start).finish

end Arguments

end HtmlTemplate
