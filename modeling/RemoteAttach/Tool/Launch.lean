import RemoteAttach.Shell.Builtin.Control
import RemoteAttach.Tool.Host

/-! Programs that start another program: with a changed environment, for a limited time, or only
with another rank among those that run. -/

namespace RemoteAttach.Tool

open Shell Act

/-- The variables of a program, in the order in which it was given them. -/
def environment (s : State) : List (String × String) :=
  s.vars.filterMap fun (name, v) => (v.value.map Value.firstText).map fun text => (name, text)

/-- The folders in which a program looks for others. -/
def searchPath (s : State) : String :=
  (s.text? "PATH").getD "/bin:/usr/bin"

/-- Becomes the program of a name. A file that names no interpreter is run as a script. -/
def become (r : Runner) (name : String) (args : List String) : Act (Option FileError) := do
  let s ← get
  if name.isEmpty then pure (some .notFound)
  else
    let found := if name.contains '/' then (s.files.programAt s.folder name).mapError ((name, ·))
      else s.files.programNamed s.folder (searchPath s) name
    match found with
    | .ok program =>
      let program := if program.args.isEmpty then { program with called := name } else program
      r.program (environment s) program args
      pure none
    | .error (text, .notExecutable) =>
      r.program (environment s) ⟨"sh", "/bin/sh", [text]⟩ args
      pure none
    | .error (_, e) => pure (some e)

/-- The status of a program that cannot start another one. -/
def refusalStatus : FileError → Nat
  | .notFound => 127
  | _ => 126

/-- Becomes the program of a name, or complains in words in which the name stands. -/
def becomeOr (r : Runner) (words : String → String) (name : String) (args : List String) :
    Act Unit := do
  match ← become r name args with
  | none => pure ()
  | some e => deplore (words name ++ ": " ++ e.reason) (refusalStatus e)

namespace Env

/-- How a text is cut into arguments: the arguments so far, the last one first, and the one that has
begun, the last character first. -/
structure Cutting where
  done : List String := []
  open? : Option (List Char) := none

/-- Adds characters to the argument that has begun. -/
def Cutting.add (c : Cutting) (text : List Char) : Cutting :=
  { c with open? := some (text.reverse ++ c.open?.getD []) }

/-- Ends the argument that has begun. -/
def Cutting.close (c : Cutting) : Cutting :=
  match c.open? with
  | some text => ⟨String.ofList text.reverse :: c.done, none⟩
  | none => c

/-- Cuts a text into arguments. `quote` is the quote that has begun, and the first `skip` characters
are passed over. -/
def cut (value : String → Option String) :
    Nat → Option Char → Cutting → List Char → Except String (List String)
  | _, none, c, [] => .ok c.close.done.reverse
  | _, some _, _, [] => .error "no terminating quote in -S string"
  | skip + 1, quote, c, _ :: rest => cut value skip quote c rest
  | 0, quote, c, '\\' :: rest =>
    match quote, rest with
    | _, [] => .error "invalid backslash at end of string in -S"
    | some '\'', '\\' :: _ => cut value 1 quote (c.add ['\\']) rest
    | some '\'', '\'' :: _ => cut value 1 quote (c.add ['\'']) rest
    | some '\'', x :: _ => cut value 1 quote (c.add ['\\', x]) rest
    | _, '_' :: _ =>
      if quote.isSome then cut value 1 quote (c.add [' ']) rest
      else cut value 1 quote c.close rest
    | _, 'c' :: _ =>
      if quote.isSome then .error "'\\c' must not appear in double-quoted -S string"
      else .ok c.close.done.reverse
    | _, x :: _ =>
      match [('f', '\x0c'), ('n', '\n'), ('r', '\r'), ('t', '\t'), ('v', '\x0b')].lookup x with
      | some plain => cut value 1 quote (c.add [plain]) rest
      | none =>
        if "\"#$'\\".toList.contains x then cut value 1 quote (c.add [x]) rest
        else .error ("invalid sequence '\\" ++ x.toString ++ "' in -S")
  | 0, quote, c, '$' :: rest =>
    if quote = some '\'' then cut value 0 quote (c.add ['$']) rest
    else
      let name := (rest.drop 1).takeWhile isNameChar
      match rest, rest.drop (name.length + 1) with
      | '{' :: _, '}' :: _ =>
        match value (String.ofList name) with
        | some text => cut value (name.length + 2) quote (c.add text.toList) rest
        | none => cut value (name.length + 2) quote c rest
      | _, _ =>
        .error ("only $\x7bVARNAME\x7d expansion is supported, error at: $" ++ String.ofList rest)
  | 0, quote, c, x :: rest =>
    match quote with
    | some q =>
      if x = q then cut value 0 none c rest else cut value 0 quote (c.add [x]) rest
    | none =>
      if x = '\'' || x = '"' then cut value 0 (some x) (c.add []) rest
      else if x = ' ' || ('\t' ≤ x && x ≤ '\x0d') then cut value 0 none c.close rest
      else if x = '#' && c.open?.isNone then .ok c.close.done.reverse
      else cut value 0 none (c.add [x]) rest

/-- The arguments with those cut up that an option says are several. -/
def spliced (value : String → Option String) : Nat → List String → Except String (List String)
  | 0, args => .ok args
  | _, [] => .ok []
  | fuel + 1, arg :: rest => do
    let chars := arg.toList
    match chars with
    | '-' :: '-' :: name =>
      if arg = "--split-string" then
        match rest with
        | text :: rest => spliced value fuel ((← cut value 0 none {} text.toList) ++ rest)
        | [] => .ok [arg]
      else if arg.startsWith "--split-string=" then
        let text := name.drop 13
        spliced value fuel ((← cut value 0 none {} text) ++ rest)
      else if arg = "--unset" || arg = "--chdir" then
        .ok (arg :: rest.take 1 ++ (← spliced value fuel (rest.drop 1)))
      else if name.isEmpty then .ok (arg :: rest)
      else .ok (arg :: (← spliced value fuel rest))
    | '-' :: c :: more =>
      let letters := c :: more
      let before := letters.takeWhile fun c => c = 'i' || c = 'v' || c = '0'
      match letters.drop before.length with
      | 'S' :: text =>
        let own := if before.isEmpty then [] else [String.ofList ('-' :: before)]
        if text.isEmpty then
          match rest with
          | text :: rest =>
            .ok (own ++ (← spliced value fuel ((← cut value 0 none {} text.toList) ++ rest)))
          | [] => .ok [arg]
        else .ok (own ++ (← spliced value fuel ((← cut value 0 none {} text) ++ rest)))
      | [letter] =>
        if letter = 'u' || letter = 'C' then
          .ok (arg :: rest.take 1 ++ (← spliced value fuel (rest.drop 1)))
        else .ok (arg :: rest)
      | _ => .ok (arg :: (← spliced value fuel rest))
    | _ => .ok (arg :: rest)

/-- Goes into a folder. -/
def enter (text : String) : Act Unit := do
  let s ← get
  match s.facts text with
  | .error e => fail ("cannot change directory to " ++ inQuotes text ++ ": " ++ e.reason) 125
  | .ok facts =>
    if facts.kind = .folder then set { s with folder := facts.path }
    else
      fail ("cannot change directory to " ++ inQuotes text ++ ": " ++
        FileError.notDirectory.reason) 125

/-- Runs a program in a changed environment, or writes that environment. -/
def run (r : Runner) (args : List String) : Act Unit := do
  let s ← get
  let args ← match spliced s.text? (2 * args.length + 16) args with
    | .ok args => pure args
    | .error text => fail text 125
  let f ← options {
    letters := "iS:u:v0C:", stops := true
    names := [("ignore-environment", 'i', .nothing), ("null", '0', .nothing),
      ("unset", 'u', .value), ("chdir", 'C', .value), ("split-string", 'S', .value),
      ("debug", 'v', .nothing)] } args 125
  let tell := fun (text : String) => if f.has 'v' then warn (text ++ "\n") else pure ()
  let bare := f.operands.head? = some "-"
  let operands := if bare then f.operands.drop 1 else f.operands
  if f.has 'i' || bare then
    tell "cleaning environ"
    modify fun s => { s with vars := [] }
  forAll (f.values 'u') fun name => do
    if name.isEmpty || name.contains '=' then
      fail ("cannot unset " ++ inQuotes name ++ ": Invalid argument") 125
    tell ("unset:    " ++ name)
    modify fun s => s.unset name
  let (settings, command) := operands.span fun text => text.contains '='
  forAll settings fun text => do
    match Text.cutAt '=' text.toList with
    | some (name, value) =>
      tell ("setenv:   " ++ text)
      modify fun s => s.set (String.ofList name) (String.ofList value) true
    | none => pure ()
  match command with
  | [] =>
    if (f.value? 'C').isSome then misuse "must specify command with --chdir (-C)" 125
    let lines := (environment (← get)).map fun (name, value) => name ++ "=" ++ value
    writeMarked (f.has '0') lines
  | name :: args =>
    if f.has '0' then misuse "cannot specify --null (-0) with command" 125
    match f.value? 'C' with
    | some folder =>
      tell ("chdir:    " ++ inQuotes folder)
      enter folder
    | none => pure ()
    tell ("executing: " ++ name)
    forAll ((name :: args).zipIdx) fun (arg, n) =>
      tell ("   arg[" ++ toString n ++ "]= " ++ inQuotes arg)
    match ← become r name args with
    | none => pure ()
    | some e =>
      deplore (cited name ++ ": " ++ e.reason) (refusalStatus e)
      if e = .notFound && name.toList.any Text.isAroundNumeral then
        complain "use -[v]S to pass options in shebang lines"

end Env

/-- Runs a program for a limited time. -/
def timeout (r : Runner) (args : List String) : Act Unit := do
  let f ← options {
    letters := "fk:s:v", stops := true
    names := [("foreground", 'f', .nothing), ("kill-after", 'k', .value), ("signal", 's', .value),
      ("preserve-status", 'p', .nothing), ("verbose", 'v', .nothing)] } args 125
  let duration := fun (text : String) => do
    match interval? text with
    | some n => pure n
    | none => misuse ("invalid time interval " ++ cited text) 125
  match f.value? 'k' with
  | some text =>
    let _ ← duration text
  | none => pure ()
  let signal ← match f.value? 's' with
    | none => pure 15
    | some text =>
      match Builtin.signal? .bash text with
      | some n => pure n
      | none => misuse (inQuotes text ++ ": invalid signal") 125
  match f.operands with
  | text :: name :: args =>
    let limit ← duration text
    let s ← get
    let target := s.clock + limit
    if limit ≠ 0 then
      set { s with deadline := some (s.deadline.elim target fun t => min t target) }
    let outcome ← observe (becomeOr r ("failed to run command " ++ cited ·) name args)
    modify fun after => { after with deadline := s.deadline }
    match outcome with
    | .error .late =>
      if limit = 0 || s.deadline.any (· ≤ target) then throw .late
      modify fun after => { after with
        toProcess := s.toProcess, clock := max after.clock target }
      let title := signalNames.getD (signal - 1) "TERM"
      if f.has 'v' then complain ("sending signal " ++ title ++ " to command " ++ inQuotes name)
      if signal = 9 then throw (.killed 9)
      finish (if f.has 'p' then 128 + signal else 124)
    | outcome => conclude outcome
  | _ => hint 125

/-- Runs a program with another rank. -/
def nice (r : Runner) (args : List String) : Act Unit := do
  let isRank := fun (text : List Char) =>
    let digits := if text.head? = some '-' || text.head? = some '+' then text.drop 1 else text
    !digits.isEmpty && digits.all Char.isDigit
  let args := match args with
    | arg :: rest =>
      match arg.toList with
      | '-' :: rank => if isRank rank then "-n" :: String.ofList rank :: rest else args
      | _ => args
    | [] => args
  let f ← options {
    letters := "n:", stops := true, names := [("adjustment", 'n', .value)] } args 125
  match f.value? 'n' with
  | some text =>
    if !isRank text.toList then fail ("invalid adjustment " ++ inQuotes text) 125
  | none => pure ()
  match f.operands with
  | [] =>
    if f.has 'n' then misuse "a command must be given with an adjustment" 125
    writeLines ["0"]
  | name :: args => becomeOr r cited name args

/-- Runs a program that goes on when its terminal is gone. -/
def nohup (r : Runner) (args : List String) : Act Unit := do
  let f ← options { letters := "", stops := true } args 125
  match f.operands with
  | [] => misuse "missing operand" 125
  | name :: args => becomeOr r ("failed to run command " ++ inQuotes ·) name args

/-- Runs a program in a session of its own. -/
def setsid (r : Runner) (args : List String) : Act Unit := do
  let f ← options {
    letters := "cfwVh", stops := true
    names := [("ctty", 'c', .nothing), ("fork", 'f', .nothing), ("wait", 'w', .nothing)] } args
  match f.operands with
  | [] => misuse "no command specified"
  | name :: args =>
    match ← become r name args with
    | none => pure ()
    | some e => deplore ("failed to execute " ++ name ++ ": " ++ e.reason) (refusalStatus e)

/-- Runs a program whose streams are held back less, or more. -/
def stdbuf (r : Runner) (args : List String) : Act Unit := do
  let f ← options {
    letters := "i:o:e:", stops := true
    names := [("input", 'i', .value), ("output", 'o', .value), ("error", 'e', .value)] } args 125
  forAll f.options fun (c, mode) => do
    if c = 'i' && mode = "L" then misuse "line buffering stdin is meaningless" 125
    if mode ≠ "L" && (size? mode).isNone then fail ("invalid mode " ++ cited mode) 125
  match f.operands with
  | [] => misuse "missing operand" 125
  | name :: args =>
    if f.options.isEmpty then misuse "you must specify a buffering mode option" 125
    becomeOr r ("failed to run command " ++ cited ·) name args

end RemoteAttach.Tool
