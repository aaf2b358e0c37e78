import RemoteAttach.ExitStatus
import RemoteAttach.Files.Error

/-! Why processes cannot be listed. -/

namespace RemoteAttach

/-- Why processes cannot be listed. -/
inductive ListingError where
  | file (error : FileError)
  /-- The command could not be started. -/
  | notStarted (command : String) (error : FileError)
  /-- The command did not end well; `output` is what it wrote to its error output, trimmed. -/
  | failed (command : String) (status : ExitStatus) (output : String)
  | timedOut (command : String) (milliseconds : Nat)
  /-- The transport has no program for the platform. -/
  | noProgram
  deriving DecidableEq, Repr

namespace ListingError

/-- The words for an error. -/
def message : ListingError → String
  | file error => "IO error: " ++ error.message
  | notStarted command error => "Failed to start '" ++ command ++ "': " ++ error.message
  | failed command status output =>
    "Command '" ++ command ++ "' failed (" ++ status.message ++ "): " ++ output
  | timedOut command milliseconds =>
    "Command '" ++ command ++ "' timed out after " ++ toString milliseconds ++ " ms"
  | noProgram => "pipeTransport has no pipeProgram for this platform"

/-- The error with its parts by name. -/
def inspect : ListingError → String
  | file error => "Io(" ++ error.inspect ++ ")"
  | notStarted command error =>
    "Spawn \x7b command: " ++ Text.quoted command ++ ", source: " ++ error.inspect ++ " \x7d"
  | failed command status output =>
    "CommandFailed \x7b command: " ++ Text.quoted command ++
      ", status: ExitStatus(unix_wait_status(" ++ toString status.code ++ ")), stderr: " ++
      Text.quoted output ++ " \x7d"
  | timedOut command milliseconds =>
    "Timeout \x7b command: " ++ Text.quoted command ++ ", timeout_ms: " ++
      toString milliseconds ++ " \x7d"
  | noProgram => "MissingPipeProgram"

end ListingError

end RemoteAttach
