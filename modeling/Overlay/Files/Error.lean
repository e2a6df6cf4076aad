/-!
# Failures of file operations
-/

namespace Overlay.Files

/-- Why a file operation failed. -/
inductive FileError where
  | notFound
  | notDirectory
  | isDirectory
  | tooManyLinks
  | nameTooLong
  | outside
  | invalidInput
  | invalidText
  deriving DecidableEq

namespace FileError

/-- The system's number of the failure, if it has one. -/
def number? : FileError → Option Nat
  | notFound => some 2
  | notDirectory => some 20
  | isDirectory => some 21
  | nameTooLong => some 36
  | tooManyLinks => some 40
  | _ => none

def text : FileError → String
  | notFound => "No such file or directory"
  | notDirectory => "Not a directory"
  | isDirectory => "Is a directory"
  | tooManyLinks => "Too many levels of symbolic links"
  | nameTooLong => "File name too long"
  | outside => "a path led outside of the filesystem"
  | invalidInput => "invalid input parameter"
  | invalidText => "stream did not contain valid UTF-8"

def message (e : FileError) : String :=
  match e.number? with
  | some n => e.text ++ " (os error " ++ toString n ++ ")"
  | none => e.text

end FileError

end Overlay.Files
