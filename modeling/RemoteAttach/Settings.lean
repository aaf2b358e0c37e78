import RemoteAttach.Text.Blank
import RemoteAttach.Text.Split
import RemoteAttach.Logs.Settings
import RemoteAttach.PipeCommand

/-! The settings file: lines of the form `key = value`, in which a later line wins over an earlier
one. Blank lines, lines that begin with a number sign, lines without an equals sign and unknown
keys are passed over. -/

namespace RemoteAttach

/-- What the settings file sets. -/
structure Settings where
  /-- The command to be run on the far side. -/
  debuggerCommand : String := defaultDebuggerCommand
  /-- Whether arguments with blanks are quoted. -/
  quoteArgs : Bool := true
  /-- The directories that are searched for the `dotnet` program. -/
  dotnetPaths : List String := []
  log : LogSettings := {}
  deriving DecidableEq, Repr

namespace Settings

open RemoteAttach.Text

/-- A text switches something on if it is one of four words in any letter case. Lowering ASCII
letters decides this for every text, because no other letter has one of the letters of these words
as its lower-case form. -/
def isOn (text : String) : Bool :=
  match text.toLower with
  | "true" | "yes" | "1" | "on" => true
  | _ => false

/-- The characters of a value up to its inline comment, which begins at a number sign outside
quotes right after a blank. `quote` is the quote that is open, and `before` the character before
the value. -/
def beforeComment (quote before : Option Char) : List Char → Option (List Char)
  | [] => none
  | c :: rest =>
    let next := fun quote => (beforeComment quote (some c) rest).map (c :: ·)
    match quote with
    | some q => next (if c = q then none else some q)
    | none =>
      if c = '\'' || c = '"' then next (some c)
      else if c = '#' && before.any isBlank then some []
      else next none

/-- A value without its inline comment and the blanks before that. A value without one is kept as
it is. -/
def dropComment (value : List Char) : List Char :=
  match beforeComment none none value with
  | some kept => trimEnd kept
  | none => value

/-- The directories of a comma separated list; empty ones are left out. -/
def pathList (value : List Char) : List String :=
  (((pieces [','] value).map trim).filter (!·.isEmpty)).map String.ofList

/-- Sets what `key` stands for. An empty debugger command sets nothing. -/
def apply (s : Settings) (key value : String) : Settings :=
  match key with
  | "debugger_command" => if value.isEmpty then s else { s with debuggerCommand := value }
  | "quote_args" => { s with quoteArgs := isOn value }
  | "dotnet_cli_paths" => { s with dotnetPaths := pathList value.toList }
  | "log_level" => { s with log.level := .ofText value }
  | "log_retention" | "log_retention_hours" => { s with log.retention := retentionOfText value }
  | "log_enabled" | "logging" => { s with log.enabled := isOn value }
  | _ => s

/-- The key and value of a line that sets something. The value is trimmed before its inline
comment is looked for. -/
def assignment? (line : List Char) : Option (String × String) :=
  let line := trim line
  if line.head? == some '#' then none
  else (cutAt '=' line).map fun (key, value) =>
    (String.ofList (trim key), String.ofList (dropComment (trim value)))

/-- Takes one line of the settings file. -/
def readLine (s : Settings) (line : List Char) : Settings :=
  match assignment? line with
  | some (key, value) => s.apply key value
  | none => s

/-- Takes a whole settings file. -/
def read (s : Settings) (text : String) : Settings :=
  (lines text.toList).foldl readLine s

/-- The builder of pipe commands that these settings ask for. -/
def builder (s : Settings) : PipeCommand.Builder :=
  ⟨s.debuggerCommand, s.quoteArgs⟩

end Settings

end RemoteAttach
