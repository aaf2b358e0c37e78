import RemoteAttach.Launch.Resolve
import RemoteAttach.Listing.Remote
import RemoteAttach.Machine

/-! Listings that are asked of a machine: of its own processes, and of those behind a pipe. Each
comes with the files after that, since a pipe program may change them. -/

namespace RemoteAttach

/-- What a command has written, if it has ended well. -/
def readOutput (command : String) (milliseconds : Nat) :
    Except Machine.Failure Ending → Except ListingError String
  | .error (.refused e) => .error (.notStarted command e)
  | .error .endless => .error (.timedOut command milliseconds)
  | .ok ending =>
    if ending.status.isSuccess then .ok (Text.lenient ending.output)
    else .error (.failed command ending.status (Text.trimmed (Text.lenient ending.errors)))

/-- The files of a machine after a command has ended there. -/
def Machine.filesAfter (m : Machine) : Except Machine.Failure Ending → FileTree
  | .ok ending => ending.files
  | .error _ => m.files

/-- The milliseconds that a listing of the machine itself may take. -/
def localPatience : Nat := 5000

/-- The milliseconds that a listing behind a pipe may take. -/
def remotePatience : Nat := 30000

/-- The processes of a machine. -/
def ProcessTable.query (m : Machine) : ProcessSource × FileTree :=
  let ended := m.run "ps" ["-axww", "-o", ProcessTable.format] [] localPatience
  ((readOutput "ps" localPatience ended).map ProcessTable.read, m.filesAfter ended)

namespace RemoteListing

/-- The machine as the pipe program finds it: in the folder of the transport, with its variables. No
text for the system may hold a zero character. -/
def pipeMachine (m : Machine) (t : Transport) : Except FileError Machine :=
  let texts := t.cwd.toList ++ t.env.flatMap fun (name, value) => [name, value]
  if texts.any (·.contains '\x00') then .error .zeroByte
  else
    let m := m.withVariables t.env
    match t.cwd with
    | some folder => m.enter folder
    | none => .ok m

/-- The listing behind a pipe. The shell of the machine runs the pipe command, which is given the
listing script. -/
def query (m : Machine) (t : Transport) (platform : Option Platform) :
    Except ListingError RemoteListing × FileTree :=
  match pipeCommand t platform with
  | none => (.error .noProgram, m.files)
  | some command =>
    let ended : Except Machine.Failure Ending :=
      match pipeMachine m t with
      | .error e => .error (.refused e)
      | .ok m => m.run "sh" ["-c", command] (Text.bytes script) remotePatience
    ((readOutput command remotePatience ended).map read, m.filesAfter ended)

end RemoteListing

/-- The processes that a configuration can be attached to: those behind its pipe, or those of the
machine if it has none. -/
def Configuration.queryProcesses (c : Configuration) (m : Machine) (platform : Option Platform) :
    ProcessSource × FileTree :=
  match c.transport with
  | none => ProcessTable.query m
  | some t =>
    let (listing, files) := RemoteListing.query m t platform
    (listing.map (·.processes), files)

/-- Resolves a configuration on a host, with the processes that the machine lists. It is asked only
if the configuration needs a process. -/
def Configuration.resolveOn (c : Configuration) (m : Machine) (host : Host)
    (pick : ProcessPicker) : Except LaunchError Resolved × FileTree :=
  let (source, files) := if c.needsProcess then c.queryProcesses m host.platform
    else (.ok [], m.files)
  (c.resolve host source pick, files)

end RemoteAttach
