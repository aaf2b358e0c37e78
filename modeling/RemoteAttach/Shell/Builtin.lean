import RemoteAttach.Shell.Builtin.Control
import RemoteAttach.Shell.Builtin.Folder
import RemoteAttach.Shell.Builtin.Input
import RemoteAttach.Shell.Builtin.Name
import RemoteAttach.Shell.Builtin.Text
import RemoteAttach.Shell.Builtin.Variable

/-! The commands that a shell does itself, apart from those that run other commands. -/

namespace RemoteAttach.Shell.Builtin

open Act

/-- Does a command of the smaller shell that differs from that of the larger one. -/
def runPlain (name : String) (args : List String) : Act Unit := do
  match name with
  | "export" => markAll name (fun v => { v with exported := true }) (·.exported) args
  | "readonly" => markAll name (fun v => { v with readonly := true }) (·.readonly) args
  | _ => hideAll args

/-- Does a command that only the larger shell has. -/
def runRich (r : Runner) (name : String) (args : List String) : Act Unit := do
  match name with
  | "declare" | "typeset" => declare r name args []
  | "let" => compute args
  | "mapfile" | "readarray" => mapfile name args
  | "shopt" => shopt args
  | "pushd" => pushd args
  | "popd" => popd args
  | "dirs" => dirs args
  | "caller" => caller args
  | "disown" | "suspend" | "logout" => refuseAlone name args
  | _ => finish 0

/-- Does a command of the shell. -/
def run (r : Runner) (name : String) (args : List String) : Act Unit := do
  match name with
  | ":" | "true" => finish 0
  | "false" => finish 1
  | "echo" => echo args
  | "printf" => printf args
  | "test" | "[" => test name args
  | "cd" | "chdir" => cd args
  | "pwd" => pwd args
  | "umask" => umask args
  | "export" | "readonly" | "local" =>
    match (← get).dialect with
    | .dash => runPlain name args
    | .bash => declare r name args []
  | "unset" => unset args
  | "set" => setAll args
  | "shift" => shift args
  | "read" => read args
  | "getopts" => getopts args
  | "break" => leaveLoops name false args
  | "continue" => leaveLoops name true args
  | "exit" => exit args
  | "return" => leave args
  | "trap" => trap args
  | "kill" => kill r args
  | "wait" => wait r args
  | "jobs" => jobs r args
  | "ulimit" => limit args
  | "times" => times
  | "bg" | "fg" => refuseControl name args
  | "type" => type args
  | "hash" => hash args
  | "alias" => nickname args
  | "unalias" => unalias args
  | _ => runRich r name args

end RemoteAttach.Shell.Builtin
