/-!
The ways in which the operating system refuses an operation on files.
-/

set_option autoImplicit false
set_option relaxedAutoImplicit false

namespace UiScaffold

/-- Why an operation on files was refused. -/
inductive OsError where
  | notFound
  | notExecutableFormat
  | permissionDenied
  | alreadyExists
  | notADirectory
  | isADirectory
  | nameTooLong
  | tooManyLinks
  /-- A path with the character U+0000. -/
  | nulInPath
  /-- A command with the character U+0000. -/
  | nulInCommand
  /-- A text file that is not UTF-8. -/
  | notText
deriving DecidableEq, Repr

/-- The wording, with the number of the error where it has one. -/
def OsError.message : OsError → String
  | notFound => "No such file or directory (os error 2)"
  | notExecutableFormat => "Exec format error (os error 8)"
  | permissionDenied => "Permission denied (os error 13)"
  | alreadyExists => "File exists (os error 17)"
  | notADirectory => "Not a directory (os error 20)"
  | isADirectory => "Is a directory (os error 21)"
  | nameTooLong => "File name too long (os error 36)"
  | tooManyLinks => "Too many levels of symbolic links (os error 40)"
  | nulInPath => "file name contained an unexpected NUL byte"
  | nulInCommand => "nul byte found in provided data"
  | notText => "stream did not contain valid UTF-8"

end UiScaffold
