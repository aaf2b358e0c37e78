import RemoteAttach.Json.Commented
import RemoteAttach.Launch.Json

/-! Launch files: JSON with comments that lists debug configurations. -/

namespace RemoteAttach

/-- A launch file. -/
structure LaunchFile where
  version : Option String := none
  configurations : List Configuration := []

namespace LaunchFile

open RemoteAttach.Json (Reader)
open RemoteAttach.Json.Reader

/-- The fields of a launch file that have been read. -/
structure Draft where
  version : Option (Option String) := none
  configurations : Option (List Configuration) := none

/-- The launch file that the fields make; a field that is missing takes its default. -/
def Draft.finish (d : Draft) : LaunchFile :=
  ⟨d.version.getD none, d.configurations.getD []⟩

/-- Takes a member of a launch file. -/
def take (room : Nat) (name : String) (d : Draft) : Reader Draft := do
  match name with
  | "version" => pure { d with version := ← field name d.version (optional string) }
  | "configurations" =>
    pure { d with
      configurations := ← field name d.configurations (list Configuration.reader room) }
  | _ =>
    skipMember
    pure d

/-- Reads a launch file without comments. -/
def reader (room : Nat) : Reader LaunchFile :=
  record "LaunchFile" room
    (fun room => do
      let d ← foldMembers (take room) {}
      pure d.finish)
    (fun room => do
      let version ← nextItem true (optional string)
      let configurations ← nextItem false (list Configuration.reader room)
      pure (Draft.finish ⟨version, configurations⟩))

/-- Reads a whole text as a launch file. Places in errors are those of the text without its
comments. -/
def parse (text : String) : Except LaunchError LaunchFile :=
  ((reader maxDepth).run (Json.Commented.strip text)).mapError .json

/-- The value that stands for a launch file. -/
def toJson (f : LaunchFile) : Json :=
  .object (optionalMember "version" (f.version.map .string) ++
    [("configurations", .array (f.configurations.map Configuration.toJson))])

/-- The first configuration of the given name. -/
def find (f : LaunchFile) (name : String) : Except LaunchError Configuration :=
  match f.configurations.find? (·.name = name) with
  | some c => .ok c
  | none => .error (.notFound name)

/-- The first configuration that has a transport. -/
def firstWithTransport? (f : LaunchFile) : Option Configuration :=
  f.configurations.find? (·.transport.isSome)

end LaunchFile

end RemoteAttach
