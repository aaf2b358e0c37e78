import RemoteAttach.Json.Record
import RemoteAttach.Transport

/-! The JSON form of pipe transports. Members that a transport does not know are passed over when it
is read, and fields that are not set are left out when it is written. -/

namespace RemoteAttach

open RemoteAttach.Json (Reader)
open RemoteAttach.Json.Reader

namespace PipeArgs

/-- The text of an argument in a list. -/
def token? : Json → Option String
  | .string token => some token
  | _ => none

/-- The arguments that a value stands for: a string, or an array of strings. -/
def ofJson? : Json → Option PipeArgs
  | .string fragment => some (.line fragment)
  | .array items => (items.mapM token?).map .list
  | _ => none

/-- Reads the arguments of a pipe program. -/
def reader (room : Nat) : Reader PipeArgs := do
  match ofJson? (← value room) with
  | some args => pure args
  | none => failUnplaced .notPipeArgs

/-- The value that stands for the arguments. -/
def toJson : PipeArgs → Json
  | line fragment => .string fragment
  | list tokens => .array (tokens.map .string)

end PipeArgs

/-- A member if there is a value for it. -/
def optionalMember (name : String) (value : Option Json) : List (String × Json) :=
  (value.map fun value => (name, value)).toList

namespace PipeOverride

/-- The fields of an override section that have been read. -/
structure Draft where
  program : Option (Option String) := none
  args : Option (Option PipeArgs) := none

/-- The section that the fields make; a field that is missing is not set. -/
def Draft.finish (d : Draft) : PipeOverride :=
  ⟨d.program.getD none, d.args.getD none⟩

/-- Takes a member of an override section. -/
def take (room : Nat) (name : String) (d : Draft) : Reader Draft := do
  match name with
  | "pipeProgram" => pure { d with program := ← field name d.program (optional string) }
  | "pipeArgs" => pure { d with args := ← field name d.args (optional (PipeArgs.reader room)) }
  | _ =>
    skipMember
    pure d

/-- Reads an override section. -/
def reader (room : Nat) : Reader PipeOverride :=
  record "PipeTransportOverride" room
    (fun room => do
      let d ← foldMembers (take room) {}
      pure d.finish)
    (fun room => do
      let program ← nextItem true (optional string)
      let args ← nextItem false (optional (PipeArgs.reader room))
      pure (Draft.finish ⟨program, args⟩))

/-- The value that stands for an override section. -/
def toJson (o : PipeOverride) : Json :=
  .object (optionalMember "pipeProgram" (o.program.map .string) ++
    optionalMember "pipeArgs" (o.args.map PipeArgs.toJson))

end PipeOverride

namespace Transport

/-- The fields of a transport that have been read. -/
structure Draft where
  program : Option (Option String) := none
  args : Option (Option PipeArgs) := none
  cwd : Option (Option String) := none
  env : Option (Members String) := none
  quoteArgs : Option (Option Bool) := none
  debuggerPath : Option (Option String) := none
  windows : Option (Option PipeOverride) := none
  osx : Option (Option PipeOverride) := none
  linux : Option (Option PipeOverride) := none

/-- The transport that the fields make; a field that is missing is not set. -/
def Draft.finish (d : Draft) : Transport where
  program := d.program.getD none
  args := d.args.getD none
  cwd := d.cwd.getD none
  env := d.env.getD []
  quoteArgs := d.quoteArgs.getD none
  debuggerPath := d.debuggerPath.getD none
  windows := d.windows.getD none
  osx := d.osx.getD none
  linux := d.linux.getD none

/-- Takes a member of a transport. -/
def take (room : Nat) (name : String) (d : Draft) : Reader Draft := do
  let section_ := fun before => field name before (optional (PipeOverride.reader room))
  match name with
  | "pipeProgram" => pure { d with program := ← field name d.program (optional string) }
  | "pipeArgs" => pure { d with args := ← field name d.args (optional (PipeArgs.reader room)) }
  | "pipeCwd" => pure { d with cwd := ← field name d.cwd (optional string) }
  | "pipeEnv" => pure { d with env := ← field name d.env (map string room) }
  | "quoteArgs" => pure { d with quoteArgs := ← field name d.quoteArgs (optional boolean) }
  | "debuggerPath" => pure { d with debuggerPath := ← field name d.debuggerPath (optional string) }
  | "windows" => pure { d with windows := ← section_ d.windows }
  | "osx" => pure { d with osx := ← section_ d.osx }
  | "linux" => pure { d with linux := ← section_ d.linux }
  | _ =>
    skipMember
    pure d

/-- Reads a transport. -/
def reader (room : Nat) : Reader Transport :=
  record "PipeTransport" room
    (fun room => do
      let d ← foldMembers (take room) {}
      pure d.finish)
    (fun room => do
      let program ← nextItem true (optional string)
      let args ← nextItem false (optional (PipeArgs.reader room))
      let cwd ← nextItem false (optional string)
      let env ← nextItem false (map string room)
      let quoteArgs ← nextItem false (optional boolean)
      let debuggerPath ← nextItem false (optional string)
      let windows ← nextItem false (optional (PipeOverride.reader room))
      let osx ← nextItem false (optional (PipeOverride.reader room))
      let linux ← nextItem false (optional (PipeOverride.reader room))
      pure (Draft.finish ⟨program, args, cwd, env, quoteArgs, debuggerPath, windows, osx, linux⟩))

/-- The value that stands for a transport. -/
def toJson (t : Transport) : Json :=
  .object (optionalMember "pipeProgram" (t.program.map .string) ++
    optionalMember "pipeArgs" (t.args.map PipeArgs.toJson) ++
    optionalMember "pipeCwd" (t.cwd.map .string) ++
    (if t.env.isEmpty then []
      else [("pipeEnv", .object (t.env.map fun (name, value) => (name, .string value)))]) ++
    optionalMember "quoteArgs" (t.quoteArgs.map .bool) ++
    optionalMember "debuggerPath" (t.debuggerPath.map .string) ++
    optionalMember "windows" (t.windows.map PipeOverride.toJson) ++
    optionalMember "osx" (t.osx.map PipeOverride.toJson) ++
    optionalMember "linux" (t.linux.map PipeOverride.toJson))

end Transport

end RemoteAttach
