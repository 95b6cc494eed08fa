import HtmlTemplate.IoError
import HtmlTemplate.Path

/-!
# A file system as a value

Files and directories by location, which is the list of names from the root downwards. Paths are
resolved against the working directory: every part but the last has to lead to a directory, and so
has the last one if a slash follows it. Writing gives a new file system and leaves the old one.
-/

set_option autoImplicit false

namespace HtmlTemplate

inductive Entry
  | file (content : ByteArray)
  | directory

structure FileSystem where
  entry? : List String → Option Entry
  workingDirectory : List String

namespace FileSystem

/-- Nothing but the root and the way to a working directory. -/
def empty (workingDirectory : List String) : FileSystem where
  entry? location := if location.isPrefixOf workingDirectory then some .directory else none
  workingDirectory := workingDirectory

/-- The file system with another entry at one location. -/
def set (fs : FileSystem) (location : List String) (entry : Entry) : FileSystem :=
  { fs with entry? := fun other => if other = location then some entry else fs.entry? other }

/-- The file system with a directory at a location that had nothing. -/
def ensureDirectory (fs : FileSystem) (location : List String) : FileSystem :=
  match fs.entry? location with
  | some _ => fs
  | none => fs.set location .directory

/-- The file system with an entry and with directories on the way to it. -/
def add (fs : FileSystem) (location : List String) (entry : Entry) : FileSystem :=
  ((List.range location.length).foldl (fun fs n => fs.ensureDirectory (location.take n)) fs).set
    location entry

/-- The greatest number of bytes in the name of an entry. -/
def maxNameSize : Nat := 255

/-- Follows parts of a path from a location on. -/
def walk (fs : FileSystem) (location : List String) : List String → Except IoError (List String)
  | [] => .ok location
  | part :: rest =>
    match fs.entry? location with
    | none => .error .notFound
    | some (.file _) => .error .notADirectory
    | some .directory =>
      if part = "" || part = "." then walk fs location rest
      else if part = ".." then walk fs location.dropLast rest
      else if maxNameSize < part.utf8ByteSize then .error .nameTooLong
      else walk fs (location ++ [part]) rest

/-- The location that a path leads to. There need not be anything at it. -/
def locate (fs : FileSystem) (path : String) : Except IoError (List String) :=
  if path.isEmpty then .error .notFound
  else if path.contains '\x00' then .error .zeroByte
  else fs.walk (if path.startsWith "/" then [] else fs.workingDirectory) (Text.splitAt '/' path)

def status (fs : FileSystem) (path : String) : Except IoError Entry := do
  match fs.entry? (← fs.locate path) with
  | some entry => .ok entry
  | none => .error .notFound

def exists? (fs : FileSystem) (path : String) : Bool :=
  match fs.status path with
  | .ok _ => true
  | .error _ => false

def isFile (fs : FileSystem) (path : String) : Bool :=
  match fs.status path with
  | .ok (.file _) => true
  | _ => false

def read (fs : FileSystem) (path : String) : Except IoError ByteArray := do
  match ← fs.status path with
  | .file content => .ok content
  | .directory => .error .isADirectory

def readText (fs : FileSystem) (path : String) : Except IoError String := do
  decodeText (← fs.read path)

/-- The path without slashes at its end. -/
def withoutSlashes (path : String) : String :=
  .ofList (path.toList.reverse.dropWhile (· = '/')).reverse

/-- The location that a path names for writing. A path with a slash at its end names a directory. -/
def locateForWriting (fs : FileSystem) (path : String) : Except IoError (List String) := do
  let file := withoutSlashes path
  if file = path then fs.locate path
  else if file.isEmpty then .error .isADirectory
  else
    let _ ← fs.locate file
    .error .isADirectory

/-- The file system after a text has been written to a file. -/
def writeText (fs : FileSystem) (path text : String) : Except IoError FileSystem := do
  let location ← fs.locateForWriting path
  match fs.entry? location with
  | some .directory => .error .isADirectory
  | _ => .ok (fs.set location (.file text.toUTF8))

end FileSystem

end HtmlTemplate
