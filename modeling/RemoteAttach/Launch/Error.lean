import RemoteAttach.Json.Error
import RemoteAttach.Listing.Error

/-! Why a launch file cannot be used, or a configuration cannot be resolved. -/

namespace RemoteAttach

/-- The greatest size of a launch file, in bytes. -/
def maxLaunchFileSize : Nat := 1024 * 1024

/-- Why a launch file cannot be used, or a configuration cannot be resolved. -/
inductive LaunchError where
  | file (error : FileError)
  | json (error : Json.ReadError)
  | tooLarge
  /-- No configuration has this name. -/
  | notFound (name : String)
  /-- The configuration of this name has no transport. -/
  | noTransport (name : String)
  /-- Nobody chose a process. -/
  | noProcess
  | listing (error : ListingError)
  deriving DecidableEq, Repr

namespace LaunchError

/-- The words for an error. -/
def message : LaunchError → String
  | file error => "IO error: " ++ error.message
  | json error => "Parse error: " ++ error.message
  | tooLarge => "File too large (max " ++ toString maxLaunchFileSize ++ " bytes)"
  | notFound name => "No launch configuration named '" ++ name ++ "'"
  | noTransport name => "Launch configuration '" ++ name ++ "' has no pipeTransport"
  | noProcess => "No process was selected"
  | listing error => error.message

/-- The error with its parts by name. -/
def inspect : LaunchError → String
  | file error => "Io(" ++ error.inspect ++ ")"
  | json error =>
    "Parse(Error(" ++ Text.quoted error.cause.message ++ ", line: " ++
      toString error.position.line ++ ", column: " ++ toString error.position.column ++ "))"
  | tooLarge => "FileTooLarge"
  | notFound name => "NotFound(" ++ Text.quoted name ++ ")"
  | noTransport name => "NoPipeTransport(" ++ Text.quoted name ++ ")"
  | noProcess => "NoProcessSelected"
  | listing error => "Process(" ++ error.inspect ++ ")"

end LaunchError

end RemoteAttach
