import RemoteAttach.Machine
import RemoteAttach.Shell.Channel
import RemoteAttach.Shell.Field
import RemoteAttach.Shell.Script
import RemoteAttach.Shell.Switch

/-! The state of a shell, and actions on it: variables, options, streams, and the ways in which a
script leaves what it is doing. -/

namespace RemoteAttach.Shell

/-- The value of a variable. -/
inductive Value where
  | text (text : String)
  /-- A list, with the numbers of its items rising. -/
  | items (items : List (Nat × String))
  /-- A list whose items are found by texts. -/
  | table (items : List (String × String))

/-- A variable. One without a value is known by its name alone. -/
structure Variable where
  value : Option Value := none
  exported : Bool := false
  readonly : Bool := false
  /-- What is assigned to it is an arithmetic expression. -/
  integer : Bool := false
  /-- The letters that are assigned to it are raised, or lowered. -/
  raises : Option Bool := none
  /-- Its value is the name of the variable that is meant. -/
  points : Bool := false

/-- A function: its body, the line where it begins and the script that defines it. -/
structure Function where
  line : Nat
  body : Command
  source : String
  /-- The text of that script from the body on. -/
  written : List Char := []
  exported : Bool := false
  readonly : Bool := false

/-- A function or a script that runs by a call from another line. -/
structure Called where
  name : String
  /-- The line of the call. -/
  line : Nat
  /-- The script that it stands in. -/
  source : String
  isFunction : Bool := true

/-- A program that has been found, and how often it has been run since. -/
structure Found where
  path : String
  runs : Nat := 0

/-- A script that reads what is written to a channel, once nothing more is written to it. -/
structure Drain where
  channel : Nat
  /-- The streams of the script. -/
  streams : List (Nat × Nat)
  script : List Statement

/-- What belongs to one process of a shell. -/
structure Process where
  dialect : Dialect := .dash
  /-- The name that the shell or its script was called by. -/
  name : String := "sh"
  args : List String := []
  vars : List (String × Variable) := []
  /-- For each function that runs, the variables that it hides, with what they were. -/
  scopes : List (List (String × Option Variable)) := []
  functions : List (String × Function) := []
  aliases : List (String × String) := []
  /-- The names of the options that are on. -/
  options : List String := []
  /-- What is done for a signal, by its name. -/
  traps : List (String × String) := []
  /-- The folder that the process is in, and the text that led there. -/
  folder : Path := []
  folderText : String := "/"
  /-- The channels that the open streams lead to. -/
  streams : List (Nat × Nat) := []
  /-- The line of the command that runs. -/
  line : Nat := 1
  /-- The line up to which the script has been read. -/
  reached : Nat := 1
  /-- The same of the script that the shell reads from a file or its input, if it does. -/
  ownReached : Option Nat := none
  /-- How far down commands count as standing which are read where they stand and run later. -/
  shift : Int := 0
  /-- Where the script that runs was read, if it is not the one that the shell was started with. -/
  origin : Option String := none
  /-- What the larger shell says of a script that it cannot read, besides the name. -/
  readMark : String := ""
  /-- The command of the shell that runs, for its complaints. -/
  builtin : Option String := none
  /-- The functions and scripts that have been called and still run, the last one first. -/
  calls : List Called := []
  /-- The file that the script stands in which the shell was started with. -/
  file : Option String := none
  /-- The last field of the command that ran last. -/
  lastField : String := ""
  /-- The scripts that read what commands still write, the last one first. -/
  drains : List Drain := []
  /-- The events whose actions run, so that they do not run inside themselves. -/
  events : List String := []
  status : Nat := 0
  /-- The status of the last script whose output was put into the command that runs. -/
  substituted : Option Nat := none
  /-- The number of loops around the command that runs. -/
  loops : Nat := 0
  /-- What runs is a condition, whose failure ends nothing. -/
  tested : Bool := false
  /-- The process is not the one that the shell was started as. -/
  isSubshell : Bool := false
  /-- The number of processes between the one that the shell was started as and this one. -/
  depth : Nat := 0
  /-- It remarks on processes that a signal has ended. -/
  remarks : Bool := false
  /-- The folders that have been put aside. -/
  folderStack : List String := []
  /-- The number of characters that have been read of the argument that options are read from. -/
  optionPlace : Nat := 0
  /-- The number of the argument where options are read next. -/
  optionIndex : Nat := 1
  /-- The number of the last process that was started in the background. -/
  lastStarted : Option Nat := none
  /-- The places that programs have been found at. -/
  found : List (String × Found) := []
  /-- The bits that new files lack. -/
  mask : Nat := 0o022
  /-- The number of scripts that the command stands in which were made by expansion or read while
  others ran. -/
  nesting : Nat := 0

/-- A process in the background. It is run when something waits for it, or when time passes. -/
structure Job where
  number : Nat
  process : Process
  script : Statement
  /-- The time at which it was started. -/
  began : Nat
  /-- Its place on the list of the shell, counted from one, if it is on that list. -/
  place : Option Nat := none
  /-- Its status, if it has run. -/
  status : Option Nat := none
  /-- The shell has waited for it. -/
  awaited : Bool := false

/-- The state of a shell and of what is around it. -/
structure State extends Process where
  files : FileTree
  channels : Array Channel := #[]
  jobs : List Job := []
  /-- The number of processes that have been started. -/
  started : Nat := 0
  /-- The milliseconds that have passed. -/
  clock : Nat := 0
  /-- The time at which what runs is stopped. -/
  deadline : Option Nat := none
  /-- Numbers by chance are made from this one. -/
  chance : Nat := 1
  /-- The signals that processes of the shell have sent to it, and that it has not met yet. -/
  sent : List Nat := []

/-- Why a script leaves what it is doing. -/
inductive Leave where
  | exit
  | fromFunction
  /-- Ends some loops. -/
  | fromLoops (count : Nat)
  /-- Goes on with the next round of the last of some loops. -/
  | toNextRound (count : Nat)
  /-- A command cannot be finished, and neither can the shell unless something stands around it. -/
  | failure
  /-- What is left of the line is dropped. -/
  | discard
  /-- The process is ended by a signal of the given number. -/
  | killed (signal : Nat)
  /-- The time is over. -/
  | late
  /-- It did not come to an end. -/
  | endless
  deriving DecidableEq

/-- An action of a shell. What it has done remains when it leaves early. -/
abbrev Act (α : Type) := ExceptT Leave (StateM State) α

/-- The number of the place of a name among those that a shell keeps. -/
def placeOf (dialect : Dialect) (name : String) : Nat :=
  match dialect with
  | .dash =>
    let codes := name.toList.map Char.toNat
    ((codes.headD 0) * 16 + codes.foldl (· + ·) 0) % 39
  | .bash =>
    let step := fun (n : UInt32) (c : Char) => (n * 16777619) ^^^ UInt32.ofNat c.toNat
    (name.toList.foldl step 2166136261).toNat % 1024

namespace Value

/-- The text of a value; that of a list is its first item. -/
def firstText : Value → String
  | .text value => value
  | .items values => (values.lookup 0).getD ""
  | .table values => (values.lookup "0").getD ""

/-- The items of a table in the order in which the larger shell keeps them. -/
def ordered (items : List (String × String)) : List (String × String) :=
  items.mergeSort fun a b => placeOf .bash a.1 ≤ placeOf .bash b.1

/-- The items of a value in order. -/
def texts : Value → List String
  | .text value => [value]
  | .items values => values.map (·.2)
  | .table values => (ordered values).map (·.2)

/-- The keys of the items of a value. -/
def keys : Value → List String
  | .text _ => ["0"]
  | .items values => values.map fun (n, _) => toString n
  | .table values => (ordered values).map (·.1)

end Value

namespace State

/-- The option of the given name is on. -/
def on (s : State) (option : String) : Bool :=
  s.options.contains option

/-- The state with an option on or off. Of the two ways of editing lines only one can be on. -/
def switch (s : State) (option : String) (on : Bool) : State :=
  let excluded := if on && option = "vi" then "emacs" else if on && option = "emacs" then "vi"
    else option
  let others := s.options.filter fun name => name ≠ option && name ≠ excluded
  { s with options := if on then option :: others else others }

/-- The state at a command that stands on a line. -/
def reach (s : State) (line : Nat) : State :=
  { s with line := (line + s.shift).toNat }

/-- The variable of the given name. -/
def lookup (s : State) (name : String) : Option Variable :=
  s.vars.lookup name

/-- The name of the variable that a name means, through the names that point to others. -/
def meant (s : State) (name : String) : Nat → String
  | 0 => name
  | fuel + 1 =>
    match s.lookup name with
    | some { points := true, value := some (.text target), .. } => s.meant target fuel
    | _ => name

/-- The number by which a shell knows itself. -/
def shellNumber : Nat := 4242

/-- The number of the process. -/
def number (s : State) : Nat :=
  if s.isSubshell then shellNumber + 1000 else shellNumber

/-- A function runs. -/
def inFunction (s : State) : Bool :=
  s.calls.any (·.isFunction)

/-- The values of the larger shell that it makes itself from what it does. -/
def made? (s : State) (name : String) : Option Value :=
  let list := fun (texts : List String) =>
    if texts.isEmpty then none else some (Value.items (texts.zipIdx.map fun (text, n) => (n, text)))
  let colons := fun (names : List String) => some (Value.text (String.intercalate ":" names))
  match name with
  | "_" => some (.text s.lastField)
  | "LINENO" => some (.text (toString s.line))
  | "SECONDS" => some (.text (toString (s.clock / 1000)))
  | "RANDOM" => some (.text (toString (s.chance * 1103 % 32768)))
  | "BASHPID" => some (.text (toString s.number))
  | "BASH_SUBSHELL" => some (.text (toString s.depth))
  | "SHELLOPTS" => colons ((Switch.names .bash).filter s.on)
  | "BASHOPTS" => colons ((Switch.further.map (·.1)).filter s.on)
  | "DIRSTACK" => list (s.folderText :: s.folderStack)
  | "GROUPS" => list ["0"]
  | "FUNCNAME" =>
    if s.calls.isEmpty then none
    else list (s.calls.map (·.name) ++ (if s.file.isSome then ["main"] else []))
  | "BASH_LINENO" =>
    list (s.calls.map (toString ·.line) ++ (if s.file.isSome then ["0"] else []))
  | "BASH_SOURCE" => list (s.calls.map (·.source) ++ s.file.toList)
  | _ => none

/-- The value of a variable, if it has one. -/
def value? (s : State) (name : String) : Option Value :=
  let made := match s.dialect with
    | .dash => none
    | .bash => s.made? name
  made.or ((s.lookup name).bind (·.value))

/-- The text of a variable. -/
def text? (s : State) (name : String) : Option String :=
  (s.value? name).map Value.firstText

/-- The state with a variable in the place of the one of its name. -/
def put (s : State) (name : String) (v : Variable) : State :=
  { s with vars := putPair name v s.vars }

/-- The state with the text of a variable set. -/
def set (s : State) (name text : String) (exported : Bool := false) : State :=
  let old := (s.lookup name).getD {}
  s.put name { old with
    value := some (.text text)
    exported := old.exported || exported || s.on "allexport" }

/-- The state without a variable. -/
def unset (s : State) (name : String) : State :=
  { s with vars := s.vars.filter (·.1 ≠ name) }

/-- The variables that programs are given, in the order in which the shell keeps them. -/
def environment (s : State) : List (String × String) :=
  let given := s.vars.filterMap fun (name, v) =>
    match v with
    | { exported := true, value := some (.text text), .. } => some (name, text)
    | _ => none
  given.mergeSort fun a b => placeOf s.dialect a.1 ≤ placeOf s.dialect b.1

/-- The characters at which values are cut into fields. -/
def separators (s : State) : List Char :=
  match s.text? "IFS" with
  | some text => text.toList
  | none => [' ', '\t', '\n']

/-- The folders that programs are looked for in. -/
def searchPath (s : State) : String :=
  (s.text? "PATH").getD ""

/-- The forms in which patterns are read. -/
def patternForm (s : State) : Pattern.Form :=
  match s.dialect with
  | .dash => {}
  | .bash => ⟨true, s.on "extglob"⟩

/-- How fields become paths. -/
def globbing (s : State) : Field.Globbing where
  form := s.patternForm
  off := s.on "noglob"
  dropsNone := s.on "nullglob"
  dots := s.on "dotglob"
  deep := s.on "globstar"
  listsSelf := s.dialect = .dash

/-- The channel that a stream leads to, with its number. -/
def channel? (s : State) (stream : Nat) : Option (Nat × Channel) := do
  let index ← s.streams.lookup stream
  let channel ← s.channels[index]?
  pure (index, channel)

/-- The state with a stream that leads to a channel of the given number. -/
def connect (s : State) (stream index : Nat) : State :=
  { s with streams := (stream, index) :: s.streams.filter (·.1 ≠ stream) }

/-- The state with a stream that leads to a new channel. -/
def openStream (s : State) (stream : Nat) (channel : Channel) : State :=
  { s.connect stream s.channels.size with channels := s.channels.push channel }

/-- The second of the epoch at which the clock of the machine begins. -/
def firstSecond : Int := 1767225600

/-- The present moment. -/
def now (s : State) : Int :=
  firstSecond + (s.clock / 1000 : Nat)

/-- The state with a stream closed. -/
def closeStream (s : State) (stream : Nat) : State :=
  { s with streams := s.streams.filter (·.1 ≠ stream) }

/-- The first place on the list of processes in the background from a place on that a new process
may take, and the processes that remain on the list then. In the smaller shell it may take the place
of one that has been waited for. -/
def placeFrom (dialect : Dialect) (jobs : List Job) : Nat → Nat → Nat × List Job
  | 0, place => (place, jobs)
  | fuel + 1, place =>
    match jobs.find? (·.place = some place) with
    | none =>
      if dialect = .bash && jobs.any fun job => job.place.any (place < ·) then
        placeFrom dialect jobs fuel (place + 1)
      else (place, jobs)
    | some job =>
      if dialect = .dash && job.awaited && job.status.isSome then
        (place, jobs.filter (·.place ≠ some place))
      else placeFrom dialect jobs fuel (place + 1)

/-- The place for a new process in the background, and the processes that remain then. -/
def nextPlace (s : State) : Nat × List Job :=
  placeFrom s.dialect s.jobs (s.jobs.length + 1) 1

/-- What is left to read from a stream, if it is open. -/
def rest? (s : State) (stream : Nat) : Option (List Char) :=
  (s.channel? stream).map fun (_, channel) => channel.rest s.files

/-- The state after some characters have been read from a stream. -/
def advance (s : State) (stream count : Nat) : State :=
  match s.channel? stream with
  | some (index, channel) => { s with channels := s.channels.set! index (channel.advance count) }
  | none => s

/-- The state after a text is written to a stream, and how that ends. -/
def write (s : State) (stream : Nat) (text : List Char) : State × WriteEnd :=
  match s.streams.lookup stream with
  | none => (s, .closed)
  | some index =>
    match s.channels[index]? with
    | none => (s, .closed)
    | some channel =>
      let (channel, files, ending) := channel.write s.files text
      ({ s with files, channels := s.channels.set! index channel }, ending)

end State

namespace Act

/-- Gives an action a status to end with. -/
def finish (status : Nat) : Act Unit :=
  modify fun s => { s with status }

/-- Writes to a stream. A process whose reader is gone is ended. -/
def emit (stream : Nat) (text : List Char) : Act Unit := fun s =>
  if text.isEmpty then (.ok (), s)
  else
    match s.write stream text with
    | (s, .full) => (.error (.killed 13), s)
    | (s, _) => (.ok (), s)

/-- Writes a text to the output. -/
def print (text : String) : Act Unit :=
  emit 1 text.toList

/-- Writes a text to the error output. -/
def warn (text : String) : Act Unit :=
  emit 2 text.toList

/-- The start of a complaint of the shell: its name and the line. -/
def prelude (s : State) (line : Nat) : String :=
  match s.dialect with
  | .dash => s.name ++ ": " ++ toString line ++ ": "
  | .bash => s.origin.getD s.name ++ ": line " ++ toString line ++ ": "

/-- Writes a complaint of the shell, and tells which of its own commands runs. -/
def complain (text : String) : Act Unit := do
  let s ← get
  warn (prelude s s.line ++ s.builtin.elim "" (· ++ ": ") ++ text ++ "\n")

/-- Writes a complaint of a command of the shell itself. -/
def complainOf (name text : String) : Act Unit := do
  let s ← get
  warn (prelude s s.line ++ name ++ ": " ++ text ++ "\n")

/-- Complains, and gives up the command that runs: in the smaller shell with the status 2, and
otherwise with the status 1. -/
def fail {α : Type} (text : String) : Act α := do
  complain text
  match (← get).dialect with
  | .dash =>
    finish 2
    throw .failure
  | .bash =>
    finish 1
    throw .discard

/-- Does an action and tells how it ends. -/
def observe {α : Type} (action : Act α) : Act (Except Leave α) := fun s =>
  let (outcome, s) := action s
  (.ok outcome, s)

/-- Ends as an observed action has ended. -/
def conclude {α : Type} : Except Leave α → Act α
  | .ok a => pure a
  | .error leave => throw leave

/-- Does an action as a condition. -/
def asCondition (action : Act Unit) : Act Unit := do
  let before := (← get).tested
  modify fun s => { s with tested := true }
  let outcome ← observe action
  modify fun s => { s with tested := before }
  conclude outcome

/-- Does steps from one value to the next until there is none, but not more than some number. -/
def repeatFrom {σ : Type} (step : σ → Act (Option σ)) : Nat → σ → Act Unit
  | 0, _ => throw .endless
  | rounds + 1, value => fun s =>
    match step value s with
    | (.ok none, s) => (.ok (), s)
    | (.ok (some next), s) => repeatFrom step rounds next s
    | (.error leave, s) => (.error leave, s)

/-- The number of rounds after which a loop is taken for endless. -/
def maxRounds : Nat := 3000000

/-- Does steps from one value to the next until there is none. -/
def repeatWhile {σ : Type} (step : σ → Act (Option σ)) (start : σ) : Act Unit :=
  repeatFrom step maxRounds start

/-- Does an action for each of some values. -/
def forAll {α : Type} (values : List α) (action : α → Act Unit) : Act Unit :=
  match values with
  | [] => pure ()
  | value :: rest => fun s =>
    match action value s with
    | (.ok (), s) => forAll rest action s
    | (.error leave, s) => (.error leave, s)

/-- What is said of a process that a signal has ended. -/
def signalRemark (signal : Nat) : Option String :=
  [(1, "Hangup"), (3, "Quit"), (4, "Illegal instruction"), (5, "Trace/breakpoint trap"),
    (6, "Aborted"), (7, "Bus error"), (8, "Floating point exception"), (9, "Killed"),
    (10, "User defined signal 1"), (11, "Segmentation fault"), (12, "User defined signal 2"),
    (14, "Alarm clock"), (15, "Terminated"), (16, "Stack fault"), (24, "CPU time limit exceeded"),
    (25, "File size limit exceeded"), (26, "Virtual timer expired"),
    (27, "Profiling timer expired"), (29, "I/O possible"), (30, "Power failure"),
    (31, "Bad system call")].lookup signal |>.or
    (if 34 ≤ signal then some ("Real-time signal " ++ toString (signal - 34))
      else if 32 ≤ signal then some ("Unknown signal " ++ toString signal)
      else none)

/-- Ends well in whatever way an observed action has left its process, unless it was endless. -/
def concludeProcess : Except Leave Unit → Act Unit
  | .error .endless => throw .endless
  | .error .late => throw .late
  | .error (.killed signal) => finish (128 + signal)
  | .error .discard => modify fun s => { s with status := if s.status = 0 then 1 else s.status }
  | _ => pure ()

/-- What a shell remarks on a process that a signal has ended, and that it has waited for. -/
def remarkOn (s : State) (signal : Nat) : Option String :=
  match s.dialect with
  | .dash => if s.remarks then signalRemark signal else none
  | .bash => if signal = 15 && !s.isSubshell then signalRemark signal else none

/-- Does an action in a process of its own, of which the files, the channels and the status
remain, and what it has left in the background. The answer is the signal that has ended it. Signals
for the shell are kept that its own processes have sent. -/
def child (action : Act Unit) : Act (Option Nat) := do
  let before ← get
  set { before with
    isSubshell := true, depth := before.depth + 1, drains := [], jobs := []
    reached := before.ownReached.getD 1 }
  let outcome ← observe action
  concludeProcess outcome
  let kept := match before.dialect with
    | .dash => before.nextPlace.2
    | .bash => before.jobs
  modify fun s => { s with
    toProcess := { before.toProcess with status := s.status }
    jobs := kept ++ (s.jobs.filter (·.status.isNone)).map fun job => { job with place := none }
    sent := if s.isSubshell then s.sent else before.sent }
  match outcome with
  | .error (.killed signal) => pure (some signal)
  | _ => pure none

/-- Does an action in a process of its own. Only one that is `awaited` is remarked on. -/
def isolated (action : Act Unit) (awaited : Bool := true) : Act Unit := do
  let before ← get
  match ← child action with
  | some signal =>
    if before.dialect = .dash || awaited then
      match remarkOn before signal with
      | some text => warn (text ++ "\n")
      | none => pure ()
  | none => pure ()

/-- What an action writes to its output, in a process of its own. -/
def captured (action : Act Unit) : Act (List Char) := do
  let index := (← get).channels.size
  let run : Act Unit := do
    modify fun s => s.openStream 1 (.buffer [] none)
    action
  isolated run false
  let s ← get
  let text := (s.channels[index]?.map Channel.written).getD []
  set { s with channels := s.channels.take index }
  pure text

/-- What is left to read from a stream, which is read to its end. -/
def readAll (stream : Nat) : Act (List Char) := fun s =>
  match s.rest? stream with
  | some text => (.ok text, s.advance stream text.length)
  | none => (.ok [], s)

end Act

end RemoteAttach.Shell
