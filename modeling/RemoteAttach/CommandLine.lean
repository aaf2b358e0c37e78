import RemoteAttach.CommandLine.Options
import RemoteAttach.DevCert.Check
import RemoteAttach.Launch.Json
import RemoteAttach.Launch.Load
import RemoteAttach.Listing.Query
import RemoteAttach.Logs.Start
import RemoteAttach.Settings.File

/-! The command line as a function of the machine it runs on: what is written, the status, and the
files after it. Arguments that are refused leave the files alone; all else reads the settings and
begins a log first. -/

namespace RemoteAttach.CommandLine

/-- The version of the program. -/
def version : String := "0.1.0"

/-- How the program is called. -/
def usage : String := "Usage: pipeattach [OPTIONS] <launch.json>"

/-- Why the program fails. -/
inductive Failure where
  | words (text : String)
  | file (error : FileError)
  | launch (error : LaunchError)
  | listing (error : ListingError)

/-- A failure with its parts by name. -/
def Failure.inspect : Failure → String
  | words text => Text.quoted text
  | file error => error.inspect
  | launch error => error.inspect
  | listing error => error.inspect

/-- What a run of the program leaves. -/
structure Report where
  status : Nat := 0
  output : String := ""
  errors : String := ""
  files : FileTree

/-- A step of the program, which may fail. What it has written, and the files, remain. -/
abbrev Step (α : Type) := ExceptT Failure (StateM Report) α

namespace Step

/-- Writes a line. -/
def say (text : String) : Step Unit :=
  modify fun r => { r with output := r.output ++ text ++ "\n" }

/-- Writes a line to the error output. -/
def note (text : String) : Step Unit :=
  modify fun r => { r with errors := r.errors ++ text ++ "\n" }

/-- Goes on with a result, or fails. -/
def accept {ε α : Type} (failure : ε → Failure) : Except ε α → Step α
  | .ok a => pure a
  | .error e => throw (failure e)

/-- Goes on with the files that a step has left, and its result. -/
def acceptWithFiles {ε α : Type} (failure : ε → Failure) (result : Except ε α × FileTree) :
    Step α := do
  modify fun r => { r with files := result.2 }
  accept failure result.1

end Step

open Step

/-- The machine, with the files as they are now. -/
def now (m : Machine) : Step Machine := do
  pure { m with files := (← get).files }

/-- A text with blanks before it, up to a width. -/
def padLeft (width : Nat) (text : String) : String :=
  String.ofList (List.replicate (width - text.length) ' ') ++ text

/-- A text with blanks after it, up to a width. -/
def padRight (width : Nat) (text : String) : String :=
  text ++ String.ofList (List.replicate (width - text.length) ' ')

/-- The line for a process: its id, name and command line in columns. -/
def processLine (p : ProcessEntry) : String :=
  padLeft 8 (toString p.id.toNat) ++ "  " ++ padRight 24 p.name ++ " " ++ p.commandLine

/-- Reads the settings of a user, and begins a log. A log that cannot be begun is noted. -/
def prepare (m : Machine) (time : String) : Step Settings := do
  let home := m.home
  let (files, settings) := Settings.load m.files m.folder (Path.join home ".pipeattachrc")
  let settings ← acceptWithFiles .file (settings, files)
  match files.startLog m.folder home settings.log time with
  | .ok files => modify fun r => { r with files }
  | .error e => note ("Warning: file logging unavailable: " ++ e.message)
  pure settings

/-- Says whether there is a trusted development certificate. -/
def checkDevCerts (m : Machine) (settings : Settings) (platform : Option Platform) :
    Step Unit := do
  let m ← now m
  let program := DevCert.program m.files m.folder settings.dotnetPaths platform
  if DevCert.isInstalled m program then say "A trusted development certificate is installed."
  else
    say "No trusted development certificate was found."
    modify fun r => { r with status := 1 }

/-- The configuration that is wanted: the one of a name, or the first that has a transport. -/
def chooseConfiguration (m : Machine) (o : Options) : Step Configuration := do
  let m ← now m
  match o.path with
  | none => throw (.words usage)
  | some path =>
    let file ← accept .launch (LaunchFile.load m.files m.folder path)
    match o.name with
    | some name => accept .launch (file.find name)
    | none =>
      match file.firstWithTransport? with
      | some c => pure c
      | none => throw (.words "No launch configuration has a pipeTransport")

/-- Writes a configuration, resolved for the process of the given name. -/
def showResolved (m : Machine) (c : Configuration) (platform : Option Platform)
    (process : String) : Step Unit := do
  let host : Host := { platform, arch := "x86_64" }
  let resolved ← acceptWithFiles .launch
    (c.resolveOn (← now m) host (ProcessPicker.named process))
  say resolved.configuration.toJson.pretty
  if resolved.checkDevCert then
    note "Note: this configuration asks for a development certificate check."

/-- Writes the listing behind a transport. -/
def showListing (m : Machine) (t : Transport) (platform : Option Platform) : Step Unit := do
  let listing ← acceptWithFiles .listing (RemoteListing.query (← now m) t platform)
  say ("# remote OS: " ++ listing.os.describe)
  listing.processes.forM fun p => say (processLine p)

/-- Writes the pipe command of a transport. -/
def showCommand (settings : Settings) (o : Options) (t : Transport)
    (platform : Option Platform) : Step Unit := do
  let builder := settings.builder
  let builder := if o.noQuote then { builder with quote := false } else builder
  match builder.buildFor t platform with
  | some command => say command
  | none => throw (.listing .noProgram)

/-- Does what the options ask for. Without a tag, the platform is that of the machine. -/
def serve (m : Machine) (o : Options) (time : String) : Step Unit := do
  let settings ← prepare m time
  let platform := match o.os with
    | some tag => Platform.ofTag? tag
    | none => some .linux
  if o.checkDevCerts then checkDevCerts m settings platform
  else
    let c ← chooseConfiguration m o
    match o.pick with
    | some process => showResolved m c platform process
    | none =>
      let t ← accept .launch c.requireTransport
      if o.list then showListing m t platform else showCommand settings o t platform

/-- Does what the arguments ask for. -/
def program (m : Machine) (time : String) (args : List String) : Step Unit := do
  if args.any fun arg => arg = "--version" || arg = "-v" then say ("pipeattach v" ++ version)
  else
    let o ← accept (.words ·.message) (Options.ofArgs args)
    serve m o time

/-- Runs the program on a machine at the given time. -/
def run (m : Machine) (time : String) (args : List String) : Report :=
  match program m time args { files := m.files } with
  | (.ok _, report) => report
  | (.error failure, report) =>
    { report with status := 1, errors := report.errors ++ "Error: " ++ failure.inspect ++ "\n" }

end RemoteAttach.CommandLine
