import RemoteAttach.Shell.Builtin.Options
import RemoteAttach.Shell.Job

/-! The commands of a shell that decide how it goes on: out of loops, functions and the shell
itself, what it does for signals, and the processes in the background. -/

namespace RemoteAttach.Shell.Builtin

open Act

/-- The number that an argument gives, which must not be below zero. -/
def number? (text : String) : Option Nat :=
  if text.isEmpty || !text.toList.all Char.isDigit then none else text.toNat?

/-- Gives the whole line up for a command of the larger shell with more than one argument. -/
def refuseMore (name : String) : Act Unit := do
  report name "too many arguments"
  finish 1
  throw .discard

/-- Leaves loops, or goes on with the next round of one. -/
def leaveLoops (name : String) (again : Bool) (args : List String) : Act Unit := do
  let s ← get
  let count : Int ← match args.head? with
    | none => pure 1
    | some text =>
      match s.dialect, Text.count? text.toList with
      | .dash, some n => if n = 0 then refuse name ("Illegal number: " ++ text) else pure n
      | .dash, none => refuse name ("Illegal number: " ++ text)
      | .bash, _ => pure ((Sum.legal? text).getD (-1))
  if s.dialect = .bash && s.loops = 0 then
    report name "only meaningful in a `for', `while', or `until' loop"
    finish 0
  else if s.dialect = .bash && (args.head?.bind Sum.legal?).isNone && !args.isEmpty then
    report name (args.headD "" ++ ": numeric argument required")
    finish 128
    throw .exit
  else if s.dialect = .bash && 1 < args.length then refuseMore name
  else if count ≤ 0 then
    report name (args.headD "" ++ ": loop count out of range")
    finish 1
    throw (.fromLoops s.loops)
  else
    finish 0
    let count := min count.toNat s.loops
    if count ≠ 0 then throw (if again then .toNextRound count else .fromLoops count)

/-- The status that an argument asks for. -/
def statusOf (name : String) (args : List String) : Act Nat := do
  let s ← get
  match args.head?, s.dialect with
  | none, _ => pure s.status
  | some text, .dash =>
    match Text.count? text.toList with
    | some n => pure (if name = "exit" then n % 256 else n)
    | none => refuse name ("Illegal number: " ++ text)
  | some text, .bash =>
    match Sum.legal? text with
    | some n => pure ((n % 256).toNat)
    | none =>
      report name (text ++ ": numeric argument required")
      finish 2
      throw (if name = "exit" then .exit else .fromFunction)

/-- Leaves the shell. -/
def exit (args : List String) : Act Unit := do
  if (← get).dialect = .bash && 1 < args.length && (args.head?.bind Sum.legal?).isSome then
    refuseMore "exit"
  finish (← statusOf "exit" args)
  throw .exit

/-- Leaves a function or a script. -/
def leave (args : List String) : Act Unit := do
  let s ← get
  if s.dialect = .bash && !s.inFunction && s.origin.isNone then
    refuse "return" "can only `return' from a function or sourced script" 2
  if s.dialect = .bash && 1 < args.length && (args.head?.bind Sum.legal?).isSome then
    refuseMore "return"
  finish (← statusOf "return" args)
  throw .fromFunction

/-- The names of all signals by rising numbers, from 1 on. Some have their number as a name. -/
def signalTitles (dialect : Dialect) : List String :=
  let usual := match dialect with
    | .dash => signalNames.map fun name => if name = "STKFLT" then "16" else name
    | .bash => signalNames
  let fromLeast := (List.range 15).map fun n => "RTMIN+" ++ toString (n + 1)
  let fromMost := (List.range 14).map fun n => "RTMAX-" ++ toString (14 - n)
  usual ++ ["32", "33", "RTMIN"] ++ fromLeast ++ fromMost ++ ["RTMAX"]

/-- The name of a signal. -/
def signalTitle (dialect : Dialect) (signal : Nat) : String :=
  (signalTitles dialect).getD (signal - 1) (toString signal)

/-- The number of a signal: zero stands for the end of the shell. The larger shell also knows names
that begin in `SIG`, and events that are no signals. -/
def signal? (dialect : Dialect) (text : String) : Option Nat :=
  let upper := text.toUpper
  match number? text with
  | some n => if n ≤ 64 then some n else none
  | none =>
    let short := if dialect = .bash && upper.startsWith "SIG" then
      String.ofList (upper.toList.drop 3) else upper
    if short = "EXIT" then some 0
    else ((signalTitles dialect).findIdx? (· = short)).map (· + 1)

/-- The events of the larger shell that are no signals. -/
def eventNames : List String := ["DEBUG", "ERR", "RETURN"]

/-- The name of a signal in the table of what is done for it. -/
def signalKey (dialect : Dialect) (text : String) : Option String :=
  if dialect = .bash && eventNames.contains text.toUpper then some text.toUpper
  else (signal? dialect text).map fun n =>
    if n = 0 then "EXIT" else signalTitle dialect n

/-- The names in the table in the order in which they are listed. -/
def trapOrder (dialect : Dialect) : List String :=
  "EXIT" :: signalTitles dialect ++ eventNames

/-- The lines that set what is done for signals. -/
def trapLines (s : State) (wanted : String → Bool) : List String :=
  (trapOrder s.dialect).filterMap fun name =>
    match s.traps.lookup name with
    | some text =>
      if !wanted name then none
      else
        match s.dialect with
        | .dash => some ("trap -- " ++ quoted text ++ " " ++ name)
        | .bash =>
          let isTitle := (signalTitles .bash).contains name && number? name = none
          let mark := if isTitle then "SIG" else ""
          some ("trap -- '" ++ text.replace "'" "'\\''" ++ "' " ++ mark ++ name)
    | none => none

/-- The signals in rows, as the larger shell lists them. -/
def signalRows : List String :=
  let numbers := (List.range 64).filter fun n => n ≠ 31 && n ≠ 32
  let cells := numbers.map fun n =>
    (if n < 9 then " " else "") ++ toString (n + 1) ++ ") SIG" ++ signalTitle .bash (n + 1)
  (List.range ((cells.length + 4) / 5)).map fun row =>
    let here := (cells.drop (5 * row)).take 5
    String.intercalate "\t" here ++ (if here.length < 5 then "\t" else "")

/-- Says what is to be done for signals, or lists it. -/
def trap (args : List String) : Act Unit := do
  let s ← get
  let (found, args) ← options "trap" (if s.dialect = .dash then "" else "lp") args
  if has found 'l' then say "trap" (unlines signalRows)
  else if args.isEmpty then say "trap" (unlines (trapLines s fun _ => true))
  else if has found 'p' then
    let names := args.filterMap (signalKey s.dialect)
    say "trap" (unlines (trapLines s names.contains))
  else
    let (action, names) ← match args, s.dialect with
      | [only], .bash =>
        match signalKey .bash only with
        | some _ => pure (none, [only])
        | none => refuseUsage "trap"
      | [only], .dash => pure (none, [only])
      | first :: rest, _ =>
        if (number? first).any (· ≤ 64) || first = "-" then
          pure (none, if first = "-" then rest else first :: rest)
        else pure (some first, rest)
      | [], _ => pure (none, [])
    finish 0
    forAll names fun text => do
      match signalKey s.dialect text with
      | some key =>
        modify fun s => { s with traps := match action with
          | some text => putPair key text s.traps
          | none => s.traps.filter (·.1 ≠ key) }
      | none =>
        match s.dialect with
        | .dash =>
          warn ("trap: " ++ text ++ ": bad trap\n")
          finish 1
        | .bash =>
          report "trap" (text ++ ": invalid signal specification")
          finish 1

/-- Runs what is to be done for a signal, if that is said, and tells whether it is. -/
def runTrap (r : Runner) (name : String) : Act Bool := do
  let s ← get
  match s.traps.lookup name with
  | none => pure false
  | some text =>
    if !text.isEmpty && !s.events.contains name then
      let line := if eventNames.contains name then s.line else 1
      let source : Source := {
        rest := text.toList, line, dialect := s.dialect, aliases := s.aliases
        grouped := s.on "extglob" }
      modify fun s => { s with
        line, nesting := s.nesting + 1, readMark := "trap: ", events := name :: s.events }
      r.script source
      modify fun after => { after with
        status := s.status, line := s.line, nesting := s.nesting, readMark := s.readMark
        events := s.events }
    pure true

/-- Sends a signal to the shell that runs. -/
def signalSelf (r : Runner) (signal : Nat) : Act Unit := do
  if signal ≠ 0 then
    let name := signalTitle (← get).dialect signal
    let handled ← if signal = 9 || signal = 19 then pure false else runTrap r name
    let harmless := ["CHLD", "CONT", "URG", "WINCH", "TSTP", "TTIN", "TTOU"].contains name
    if name = "STOP" then throw .late
    if !handled && !harmless then throw (.killed signal)

/-- Meets the signals that processes of the shell have sent to it. -/
def meetSignals (r : Runner) : Act Unit := do
  let s ← get
  if !s.isSubshell && !s.sent.isEmpty then
    set { s with sent := [] }
    forAll s.sent (signalSelf r)

/-- How `kill` is used. -/
def killUsage : Dialect → String
  | .dash => "Usage: kill [-s sigspec | -signum | -sigspec] [pid | job]... or\nkill -l [exitstatus]"
  | .bash => ""

/-- The names of signals that a command tells. -/
def tellSignals (args : List String) : Act Unit := do
  let s ← get
  match args, s.dialect with
  | [], .dash => say "kill" (unlines ("0" :: signalTitles .dash))
  | [], .bash => say "kill" (unlines signalRows)
  | text :: _, .dash =>
    match Text.count? text.toList with
    | none =>
      match text.toList with
      | '-' :: c :: _ => refuseOption "kill" c
      | _ => refuse "kill" ("Illegal number: " ++ text)
    | some n =>
      let n' := if 128 < n then n - 128 else n
      if 0 < n' && n' ≤ 64 then say "kill" (unlines [signalTitle .dash n'])
      else refuse "kill" ("invalid signal number or exit status: " ++ text)
  | texts, .bash =>
    finish 0
    forAll texts fun text => do
      match number? text with
      | some n =>
        let n' := if 128 < n then n - 128 else n
        if n' = 0 then say "kill" (unlines ["EXIT"])
        else if n' = 32 || n' = 33 then pure ()
        else if n' ≤ 64 then say "kill" (unlines [signalTitle .bash n'])
        else
          report "kill" (text ++ ": invalid signal specification")
          finish 1
      | none =>
        match signal? .bash text with
        | some n => say "kill" (unlines [toString n])
        | none =>
          report "kill" (text ++ ": invalid signal specification")
          finish 1

/-- Sends a signal to a process. -/
def killOne (r : Runner) (signal : Nat) (text : String) : Act Unit := do
  let s ← get
  let missing := fun (text : String) => do
    match s.dialect with
    | .dash => warn (prelude s s.line ++ "kill: No such process\n\n")
    | .bash => report "kill" ("(" ++ text ++ ") - No such process")
    finish 1
  match text.toList with
  | '%' :: _ =>
    match Job.find s text, s.dialect with
    | .ok _, .dash => missing text
    | .ok job, .bash => let _ ← Job.stop r job.number signal
    | .error words, .dash => refuse "kill" words
    | .error words, .bash => refuse "kill" words 1
  | chars =>
    let (isGroup, digits) := match chars, s.dialect with
      | '-' :: rest, .dash => (true, String.ofList rest)
      | _, _ => (false, text)
    match (if s.dialect = .dash then Text.count? digits.toList else number? digits) with
    | none =>
      match s.dialect with
      | .dash => refuse "kill" ("Illegal number: " ++ digits)
      | .bash =>
        report "kill" (text ++ ": arguments must be process or job IDs")
        finish 1
    | some n =>
      if isGroup then missing text
      else if n = s.number then signalSelf r signal
      else if n = State.shellNumber then set { s with sent := s.sent ++ [signal] }
      else if !(← Job.stop r n signal) then missing text

/-- Sends a signal to processes. -/
def kill (r : Runner) (args : List String) : Act Unit := do
  let s ← get
  let usage : Act Unit := do
    match s.dialect with
    | .dash => refuse "kill" (killUsage .dash)
    | .bash => refuseUsage "kill"
  let send := fun (signal : Nat) (targets : List String) => do
    if targets.isEmpty then usage
    else
      finish 0
      forAll targets (killOne r signal)
  let named := fun (text : String) (targets : List String) => do
    match signal? s.dialect text with
    | some signal => send signal targets
    | none =>
      match s.dialect with
      | .dash => refuse "kill" ("invalid signal number or name: " ++ text)
      | .bash => refuse "kill" (text ++ ": invalid signal specification") 1
  match args with
  | [] => usage
  | "-l" :: rest | "-L" :: rest => tellSignals rest
  | "-s" :: text :: rest => named text rest
  | "-n" :: text :: rest =>
    match s.dialect with
    | .dash => refuseOption "kill" 'n'
    | .bash => named text rest
  | "--" :: rest => send 15 rest
  | first :: rest =>
    match first.toList with
    | '-' :: c :: more =>
      let text := String.ofList (c :: more)
      match signal? s.dialect text, s.dialect with
      | some signal, _ => send signal rest
      | none, .dash => refuseOption "kill" c
      | none, .bash => refuse "kill" (text ++ ": invalid signal specification") 1
    | _ => send 15 args

/-- Waits for processes of the background. -/
def wait (r : Runner) (args : List String) : Act Unit := do
  let s ← get
  let (_, args) ← options "wait" (if s.dialect = .dash then "" else "fnp:") args
  if args.isEmpty then
    Job.runAll r
    modify fun s => { s with jobs := match s.dialect with
      | .dash => s.jobs.map fun job => { job with awaited := true }
      | .bash => [] }
    finish 0
  else
    forAll args fun text => do
      let s ← get
      match text.toList with
      | '%' :: _ =>
        match Job.find s text, s.dialect with
        | .ok job, _ => finish ((← Job.await r job.number).getD 127)
        | .error words, .dash => refuse "wait" words
        | .error words, .bash => refuse "wait" words 127
      | _ =>
        match (if s.dialect = .dash then Text.count? text.toList else number? text), s.dialect with
        | none, .dash => refuse "wait" ("Illegal number: " ++ text)
        | none, .bash => refuse "wait" ("`" ++ text ++ "': not a pid or valid job spec") 1
        | some n, dialect =>
          match ← Job.await r n with
          | some status =>
            if s.remarks && 128 < status then
              match signalRemark (status - 128) with
              | some words => warn (words ++ "\n")
              | none => pure ()
            finish status
          | none =>
            if dialect = .bash then
              report "wait" ("pid " ++ text ++ " is not a child of this shell")
            finish 127

/-- Tells the time that the shell has taken. -/
def times : Act Unit := do
  let line := match (← get).dialect with
    | .dash => "0m0.000000s 0m0.000000s"
    | .bash => "0m0.001s 0m0.000s"
  say "times" (unlines [line, line])

/-- Tells how much of something a process may use, which is without an end for all but a few things,
or takes a new limit in. -/
def limit (args : List String) : Act Unit := do
  let dialect := (← get).dialect
  let letters := match dialect with
    | .dash => "HSatfdscmlpnvwr"
    | .bash => "SHabcdefiklmnpqrstuvxPRT"
  let (found, args) ← options "ulimit" letters args
  let asked := ((found.filter fun (c, _) => c ≠ 'H' && c ≠ 'S').getLast?.map (·.1)).getD 'f'
  match args with
  | [] =>
    let amount := ([('c', "0"), ('l', "8192"), ('n', "1024"), ('r', "0"), ('s', "8192")].lookup
      asked).getD "unlimited"
    say "ulimit" (amount ++ "\n").toList
  | text :: more =>
    if dialect = .dash && !more.isEmpty then refuse "ulimit" "too many arguments"
    let words := if dialect = .bash then ["unlimited", "hard", "soft"] else ["unlimited"]
    if words.contains text || (!text.isEmpty && text.toList.all Char.isDigit) then finish 0
    else
      match dialect with
      | .dash => refuse "ulimit" "bad number"
      | .bash => refuse "ulimit" (text ++ ": invalid number") 1

/-- Refuses what needs control over jobs. -/
def refuseControl (name : String) (args : List String) : Act Unit := do
  let s ← get
  match s.dialect with
  | .dash =>
    let text := args.headD "%%"
    match Job.find s text with
    | .ok _ =>
      refuse name ("job " ++ args.headD "(null)" ++ " not created under job control")
    | .error words => refuse name words
  | .bash => refuse name "no job control" 1

/-- Tells where a call of a function stands, counted from the innermost one. -/
def caller (args : List String) : Act Unit := do
  let s ← get
  let lines := s.calls.map (·.line) ++ [0]
  let sources := s.calls.map (·.source) ++ [s.file.getD "NULL"]
  let names := s.calls.map (·.name) ++ (if s.file.isSome then ["main"] else [])
  match args with
  | [] =>
    if s.calls.isEmpty && s.file.isNone then finish 1
    else
      let line := toString (lines.getD 0 0)
      let source := if s.calls.isEmpty then "NULL" else sources.getD 1 "NULL"
      say "caller" (unlines [line ++ " " ++ source])
  | text :: _ =>
    match number? text with
    | none =>
      report "caller" (text ++ ": invalid number")
      refuseUsage "caller"
    | some n =>
      match lines[n]?, names[n + 1]?, sources[n + 1]? with
      | some line, some name, some source =>
        say "caller" (unlines [toString line ++ " " ++ name ++ " " ++ source])
      | _, _, _ => finish 1

/-- Refuses what only makes sense in a shell that someone uses. -/
def refuseAlone (name : String) (args : List String) : Act Unit := do
  match name with
  | "disown" => refuse name (args.headD "current" ++ ": no such job") 1
  | "suspend" => refuse name "cannot suspend: no job control" 1
  | _ => refuse name "not login shell: use `exit'" 1

/-- Tells the processes of the background. -/
def jobs (r : Runner) (args : List String) : Act Unit := do
  let s ← get
  match s.dialect with
  | .dash =>
    let (found, args) ← options "jobs" "lp" args
    Job.tell r (has found 'p') (has found 'l') args
  | .bash => finish 0

end RemoteAttach.Shell.Builtin
