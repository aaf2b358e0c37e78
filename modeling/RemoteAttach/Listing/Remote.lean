import RemoteAttach.PipeCommand
import RemoteAttach.Text.Quoted
import RemoteAttach.Text.Split
import RemoteAttach.Listing.ProcessTable

/-! Listings of the far side of a pipe: the script that is sent there, and what its output says of
the operating system and the processes. -/

namespace RemoteAttach

/-- The operating system of the far side. -/
inductive RemoteOs where
  | linux
  | darwin
  | other (name : String)
  deriving DecidableEq, Repr

namespace RemoteOs

/-- The operating system that a line of `uname` names. -/
def ofText (text : String) : RemoteOs :=
  match Text.trimmed text with
  | "Linux" => linux
  | "Darwin" => darwin
  | name => other name

/-- The operating system as a listing shows it. -/
def describe : RemoteOs → String
  | linux => "Linux"
  | darwin => "Darwin"
  | other name => "Other(" ++ Text.quoted name ++ ")"

end RemoteOs

/-- What the far side of a pipe reports. -/
structure RemoteListing where
  os : RemoteOs
  processes : List ProcessEntry
  deriving DecidableEq, Repr

namespace RemoteListing

/-- The command that runs the listing script: a shell that reads it from its input. -/
def shellCommand : String := "sh -s"

/-- The listing script: the name of the system, then the process table. -/
def script : String :=
  "uname\nps -axww -o " ++ ProcessTable.format ++ "\n"

/-- The command line that runs the listing script behind a pipe. -/
def pipeCommand (t : Transport) (platform : Option Platform) : Option String :=
  PipeCommand.Builder.buildFor { command := shellCommand } t platform

/-- Reads the output of the listing script: a line of `uname`, and the table after it. -/
def read (output : String) : RemoteListing :=
  match Text.cutAt '\n' output.toList with
  | some (uname, table) =>
    ⟨.ofText (String.ofList uname), ProcessTable.ofLines (Text.lines table)⟩
  | none => ⟨.ofText output, []⟩

end RemoteListing

end RemoteAttach
