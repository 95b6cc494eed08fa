/-!
# Failures of the file system

A failed access has a kind, by which programs tell failures apart, and a text for people.
-/

set_option autoImplicit false

namespace HtmlTemplate

inductive IoError.Kind
  | notFound
  | permissionDenied
  | notADirectory
  | isADirectory
  | invalidInput
  | invalidData
  | invalidFileName
  | other
deriving DecidableEq, Repr

structure IoError where
  kind : IoError.Kind
  text : String
deriving DecidableEq, Repr

namespace IoError

def notFound : IoError :=
  ⟨.notFound, "No such file or directory (os error 2)"⟩

def notADirectory : IoError :=
  ⟨.notADirectory, "Not a directory (os error 20)"⟩

def isADirectory : IoError :=
  ⟨.isADirectory, "Is a directory (os error 21)"⟩

def nameTooLong : IoError :=
  ⟨.invalidFileName, "File name too long (os error 36)"⟩

/-- A path with a zero byte names no file. -/
def zeroByte : IoError :=
  ⟨.invalidInput, "file name contained an unexpected NUL byte"⟩

def notText : IoError :=
  ⟨.invalidData, "stream did not contain valid UTF-8"⟩

end IoError

/-- The text that bytes encode. -/
def decodeText (bytes : ByteArray) : Except IoError String :=
  match String.fromUTF8? bytes with
  | some text => .ok text
  | none => .error .notText

end HtmlTemplate
