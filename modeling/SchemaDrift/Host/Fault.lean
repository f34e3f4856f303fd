import SchemaDrift.Text.Basic

namespace SchemaDrift

/-- Why the surroundings refuse a request. -/
inductive HostFault where
  | noSuchFile
  | argumentTooLong
  | notExecutable
  | permissionDenied
  | fileExists
  | notADirectory
  | isADirectory
  /-- A program is not run while it is open for writing. -/
  | textFileBusy
  | noSpace
  | nameTooLong
  | notImplemented
  | notEmpty
  | tooManyLinks
  /-- The bytes of a file are no text. -/
  | notText
  | nulInPath
  | nulInCommand
  deriving DecidableEq, Repr

def HostFault.message : HostFault → Text
  | .noSuchFile => "No such file or directory (os error 2)"
  | .argumentTooLong => "Argument list too long (os error 7)"
  | .notExecutable => "Exec format error (os error 8)"
  | .permissionDenied => "Permission denied (os error 13)"
  | .fileExists => "File exists (os error 17)"
  | .notADirectory => "Not a directory (os error 20)"
  | .isADirectory => "Is a directory (os error 21)"
  | .textFileBusy => "Text file busy (os error 26)"
  | .noSpace => "No space left on device (os error 28)"
  | .nameTooLong => "File name too long (os error 36)"
  | .notImplemented => "Function not implemented (os error 38)"
  | .notEmpty => "Directory not empty (os error 39)"
  | .tooManyLinks => "Too many levels of symbolic links (os error 40)"
  | .notText => "stream did not contain valid UTF-8"
  | .nulInPath => "file name contained an unexpected NUL byte"
  | .nulInCommand => "nul byte found in provided data"

end SchemaDrift
