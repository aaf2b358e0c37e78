import RemoteAttach.Text.Quoted

/-! Why a file cannot be used or a program cannot be started, in the words of the system. -/

namespace RemoteAttach

/-- Why the system refuses a file or a program. -/
inductive FileError where
  | notFound
  | notExecutable
  | permissionDenied
  | alreadyExists
  | notDirectory
  | isDirectory
  | notEmpty
  | invalidArgument
  | nameTooLong
  /-- An argument of a program is longer than the system takes. -/
  | tooLongArguments
  /-- A walk meets more links than the system follows. -/
  | tooManyLinks
  /-- A stream is not open. -/
  | notOpen
  /-- A file is read as text, but its bytes are none. -/
  | notText
  /-- The name of a file holds the character that ends it for the system. -/
  | zeroInName
  /-- An argument of a program holds the character that ends it for the system. -/
  | zeroByte
  deriving DecidableEq, Repr

namespace FileError

/-- What the system reports: its number and words for a refusal, or words alone. -/
def parts : FileError → Option Nat × String × String
  | notFound => (some 2, "NotFound", "No such file or directory")
  | notExecutable => (some 8, "Uncategorized", "Exec format error")
  | tooLongArguments => (some 7, "ArgumentListTooLong", "Argument list too long")
  | permissionDenied => (some 13, "PermissionDenied", "Permission denied")
  | notOpen => (some 9, "Uncategorized", "Bad file descriptor")
  | alreadyExists => (some 17, "AlreadyExists", "File exists")
  | notDirectory => (some 20, "NotADirectory", "Not a directory")
  | isDirectory => (some 21, "IsADirectory", "Is a directory")
  | invalidArgument => (some 22, "InvalidInput", "Invalid argument")
  | nameTooLong => (some 36, "InvalidFilename", "File name too long")
  | notEmpty => (some 39, "DirectoryNotEmpty", "Directory not empty")
  | tooManyLinks => (some 40, "FilesystemLoop", "Too many levels of symbolic links")
  | notText => (none, "InvalidData", "stream did not contain valid UTF-8")
  | zeroInName => (none, "InvalidInput", "file name contained an unexpected NUL byte")
  | zeroByte => (none, "InvalidInput", "nul byte found in provided data")

/-- The words of the system for a refusal, without its number. -/
def reason (e : FileError) : String :=
  e.parts.2.2

/-- The words for a refusal. -/
def message (e : FileError) : String :=
  match e.parts with
  | (some code, _, words) => words ++ " (os error " ++ toString code ++ ")"
  | (none, _, words) => words

/-- The refusal with its parts by name. -/
def inspect (e : FileError) : String :=
  match e.parts with
  | (some code, kind, words) =>
    "Os \x7b code: " ++ toString code ++ ", kind: " ++ kind ++ ", message: " ++
      Text.quoted words ++ " \x7d"
  | (none, kind, words) =>
    "Error \x7b kind: " ++ kind ++ ", message: " ++ Text.quoted words ++ " \x7d"

end FileError

end RemoteAttach
