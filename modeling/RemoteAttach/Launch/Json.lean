import RemoteAttach.Launch.Configuration
import RemoteAttach.Transport.Json

/-! The JSON form of configurations. A configuration is an object; members that are not fields are
kept by rising name, and are written after the fields. -/

namespace RemoteAttach.Configuration

open RemoteAttach.Json (Reader)
open RemoteAttach.Json.Reader

/-- The fields of a configuration that have been read, and its other members. -/
structure Draft where
  name : Option String := none
  kind : Option String := none
  request : Option Request := none
  processId : Option (Option Json) := none
  processName : Option (Option String) := none
  transport : Option (Option Transport) := none
  checkForDevCert : Option (Option Bool) := none
  serverReadyAction : Option (Option Json) := none
  targetArchitecture : Option (Option String) := none
  extra : Members Json := []

/-- The configuration that the fields make; a field that is missing takes its default. -/
def Draft.finish (d : Draft) : Configuration where
  name := d.name.getD ""
  kind := d.kind.getD ""
  request := d.request.getD .launch
  processId := d.processId.getD none
  processName := d.processName.getD none
  transport := d.transport.getD none
  checkForDevCert := d.checkForDevCert.getD none
  serverReadyAction := d.serverReadyAction.getD none
  targetArchitecture := d.targetArchitecture.getD none
  extra := d.extra

/-- Reads a request. -/
def readRequest : Reader Request := do
  let word ← string
  pure (.ofWord word)

/-- Takes a member of a configuration. -/
def take (room : Nat) (name : String) (d : Draft) : Reader Draft := do
  match name with
  | "name" => pure { d with name := ← field name d.name string }
  | "type" => pure { d with kind := ← field name d.kind string }
  | "request" => pure { d with request := ← field name d.request readRequest }
  | "processId" => pure { d with processId := ← field name d.processId (optional (value room)) }
  | "processName" => pure { d with processName := ← field name d.processName (optional string) }
  | "pipeTransport" =>
    pure { d with transport := ← field name d.transport (optional (Transport.reader room)) }
  | "checkForDevCert" =>
    pure { d with checkForDevCert := ← field name d.checkForDevCert (optional boolean) }
  | "serverReadyAction" =>
    pure { d with
      serverReadyAction := ← field name d.serverReadyAction (optional (value room)) }
  | "targetArchitecture" =>
    pure { d with targetArchitecture := ← field name d.targetArchitecture (optional string) }
  | _ =>
    colon
    let v ← value room
    pure { d with extra := d.extra.insert name v }

/-- Reads a configuration. -/
def reader (room : Nat) : Reader Configuration :=
  objectRecord "LaunchConfiguration" room fun room => do
    let d ← foldMembers (take room) {}
    pure d.finish

/-- Reads a whole text as a configuration. -/
def parse (text : String) : Except Json.ReadError Configuration :=
  (reader maxDepth).run text

/-- The members of a configuration that stand for its fields. -/
def fieldMembers (c : Configuration) : List (String × Json) :=
  [("name", .string c.name), ("type", .string c.kind), ("request", .string c.request.word)] ++
    optionalMember "processId" c.processId ++
    optionalMember "processName" (c.processName.map .string) ++
    optionalMember "pipeTransport" (c.transport.map Transport.toJson) ++
    optionalMember "checkForDevCert" (c.checkForDevCert.map .bool) ++
    optionalMember "serverReadyAction" c.serverReadyAction ++
    optionalMember "targetArchitecture" (c.targetArchitecture.map .string)

/-- The value that stands for a configuration. -/
def toJson (c : Configuration) : Json :=
  .object (c.fieldMembers ++ c.extra)

end RemoteAttach.Configuration
