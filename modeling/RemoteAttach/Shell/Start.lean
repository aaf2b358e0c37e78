import RemoteAttach.Shell.Run

/-! How a shell is started: what it takes from its environment and its arguments, and where its
script comes from. -/

namespace RemoteAttach.Shell.Start

open Act

/-- What a shell is told on its command line. -/
structure Invocation where
  /-- The script is the first operand. -/
  command : Bool := false
  operands : List String := []

/-- The long options of the larger shell that have a value. -/
def longValues : List String := ["--init-file", "--rcfile"]

/-- The long options of the larger shell. -/
def longOptions : List String :=
  ["--debug", "--debugger", "--dump-po-strings", "--dump-strings", "--help", "--init-file",
    "--login", "--noediting", "--noprofile", "--norc", "--posix", "--pretty-print", "--rcfile",
    "--restricted", "--verbose", "--version"]

/-- How the larger shell is called. -/
def usage : String :=
  "Usage:\tbash [GNU long option] [option] ...\n" ++
    "\tbash [GNU long option] [option] script-file ...\nGNU long options:\n" ++
    String.join (longOptions.map fun name => "\t" ++ name ++ "\n") ++
    "Shell options:\n\t-ilrsD or -c command or -O shopt_option\t\t(invocation only)\n" ++
    "\t-abefhkmnptuvxBCEHPT or -o option\n"

/-- Refuses to start. -/
def refuse {α : Type} (text : String) : Act α := do
  let s ← get
  match s.dialect with
  | .dash => warn (s.name ++ ": 0: " ++ text ++ "\n")
  | .bash => warn (s.name ++ ": " ++ text ++ "\n")
  finish 2
  throw .exit

/-- Refuses an option that is not known. -/
def refuseOption {α : Type} (text : String) : Act α := do
  match (← get).dialect with
  | .dash => refuse ("Illegal option " ++ text)
  | .bash =>
    let s ← get
    warn (s.name ++ ": " ++ text ++ ": invalid option\n" ++ usage)
    finish 2
    throw .exit

/-- Takes options in the form of letters, of which one takes the name of an option from the
arguments that follow. -/
def takeLetters (i : Invocation) (on : Bool) (rest : List String) :
    List Char → Act (Invocation × List String)
  | [] => pure (i, rest)
  | 'c' :: letters => do
    if (← get).dialect = .bash then modify fun s => s.switch "command" true
    takeLetters { i with command := true } on rest letters
  | 'l' :: letters => do
    if (← get).dialect = .bash then modify fun s => s.switch "login_shell" true
    takeLetters i on rest letters
  | 'o' :: letters => do
    let s ← get
    match rest with
    | name :: rest =>
      if (Switch.names s.dialect).contains name then
        modify fun s => s.switch name on
        takeLetters i on rest letters
      else
        match s.dialect with
        | .dash => refuse ("Illegal option -o " ++ name)
        | .bash => refuse ("line 0: " ++ s.name ++ ": " ++ name ++ ": invalid option name")
    | [] => takeLetters i on [] letters
  | 'O' :: letters => do
    let s ← get
    match s.dialect, rest with
    | .bash, name :: rest =>
      modify fun s => s.switch name on
      takeLetters i on rest letters
    | _, _ => refuseOption ("-O" ++ String.ofList letters)
  | letter :: letters => do
    let s ← get
    match (Switch.letters s.dialect).lookup letter, letter, s.dialect with
    | some name, _, _ =>
      modify fun s => s.switch name on
      takeLetters i on rest letters
    | none, 'i', .bash | none, 'r', .bash | none, 'D', .bash => takeLetters i on rest letters
    | none, _, .dash => refuseOption ("-" ++ letter.toString)
    | none, _, .bash => refuseOption ((if on then "-" else "+") ++ letter.toString)

/-- What the arguments of a shell tell it. -/
def ofArgs : Nat → Invocation → List String → Act Invocation
  | 0, i, args => pure { i with operands := args }
  | _, i, [] => pure { i with operands := [] }
  | fuel + 1, i, arg :: rest => do
    let s ← get
    match arg.toList with
    | ['-'] | ['-', '-'] => pure { i with operands := rest }
    | '-' :: '-' :: _ =>
      match s.dialect with
      | .dash => refuseOption "--"
      | .bash =>
        if arg = "--version" then
          print "GNU bash, version 5.2.15(1)-release (x86_64-pc-linux-gnu)\n"
          finish 0
          throw .exit
        else if longValues.contains arg then ofArgs fuel i (rest.drop 1)
        else if longOptions.contains arg then
          if arg = "--verbose" then modify fun s => s.switch "verbose" true
          if arg = "--posix" then modify fun s => s.switch "posix" true
          ofArgs fuel i rest
        else refuseOption arg
    | sign :: letters =>
      if (sign = '-' || sign = '+') && !letters.isEmpty then
        let (i, rest) ← takeLetters i (sign = '-') rest letters
        ofArgs fuel i rest
      else pure { i with operands := arg :: rest }
    | [] => pure { i with operands := arg :: rest }

/-- The text of the folder that the process is in: the one that it is told, if it leads there. -/
def folderText (s : State) (environment : List (String × String)) : String :=
  match environment.lookup "PWD" with
  | some text =>
    if text.startsWith "/" && (s.files.resolve [] text).toOption == some s.folder then text
    else Builtin.pathText s.folder
  | none => Builtin.pathText s.folder

/-- The variables that a shell has at its start besides those of its environment. -/
def ownVariables (dialect : Dialect) (environment : List (String × String)) :
    List (String × Variable) :=
  let text := fun (value : String) => ({ value := some (.text value) } : Variable)
  let given := fun (name value : String) => match environment.lookup name with
    | some value => (name, { text value with exported := true })
    | none => (name, text value)
  match dialect with
  | .dash =>
    [("IFS", text " \t\n"), ("OPTIND", text "1"),
      given "PATH" "/usr/local/sbin:/usr/local/bin:/usr/sbin:/usr/bin:/sbin:/bin",
      ("PPID", text "4241"), given "PS1" "# ", given "PS2" "> ", given "PS4" "+ "]
  | .bash =>
    let level := ((environment.lookup "SHLVL").bind String.toNat?).getD 0
    let number := fun (value : String) =>
      { text value with integer := true, readonly := true }
    [("BASH", text "/usr/bin/bash"), ("BASH_VERSION", text "5.2.15(1)-release"),
      ("BASH_VERSINFO", { value := some (.items [(0, "5"), (1, "2"), (2, "15"), (3, "1"),
          (4, "release"), (5, "x86_64-pc-linux-gnu")]), readonly := true }),
      ("EUID", number "0"), ("HOSTTYPE", text "x86_64"), ("IFS", text " \t\n"),
      ("MACHTYPE", text "x86_64-pc-linux-gnu"),
      ("OLDPWD", { value := (environment.lookup "OLDPWD").map .text, exported := true }),
      ("OPTERR", text "1"), ("OPTIND", text "1"),
      ("OSTYPE", text "linux-gnu"),
      given "PATH" "/usr/local/sbin:/usr/local/bin:/usr/sbin:/usr/bin:/sbin:/bin",
      ("PPID", number "4241"), given "PS4" "+ ", given "SHELL" "/bin/bash",
      ("SHLVL", { text (toString (level + 1)) with exported := true }),
      given "TERM" "dumb", ("UID", number "0")]

/-- The options that are on at the start. -/
def ownOptions : Dialect → List String
  | .dash => []
  | .bash =>
    ["hashall", "braceexpand", "interactive-comments"] ++
      (Switch.further.filter (·.2)).map (·.1)

/-- The functions that an environment tells. -/
def givenFunctions (environment : List (String × String)) : List (String × Function) :=
  environment.filterMap fun (name, text) => do
    let name ← (name.dropPrefix? "BASH_FUNC_").bind (·.toString.dropSuffix? "%%")
    let name := name.toString
    if text.startsWith "() \x7b" then
      match Reading.scriptLine.run { rest := (name ++ " " ++ text).toList, dialect := .bash } with
      | .ok ([.pipeline false [.function line _ body written]], _) =>
        some (name, { line, body, source := "environment", written, exported := true })
      | _ => none
    else none

/-- The process as a shell with an environment. -/
def prepare (dialect : Dialect) (called : String) (environment : List (String × String)) :
    Act Unit := do
  let s ← get
  let given := (environment.filter fun (name, _) => isName name).map fun (name, value) =>
    (name, ({ value := some (.text value), exported := true } : Variable))
  let own := ownVariables dialect environment
  let vars := own.foldl (fun vars (name, v) =>
    let exported := v.exported || (given.lookup name).isSome
    putPair name { v with exported } vars) given
  let here := folderText s environment
  set { s with toProcess := {
    dialect, name := called, vars, folder := s.folder, folderText := here, streams := s.streams
    lastField := (environment.lookup "_").getD called
    functions := if dialect = Dialect.bash then givenFunctions environment else []
    mask := s.mask, options := ownOptions dialect, remarks := dialect == Dialect.dash, line := 0 } }
  modify fun s => s.set "PWD" here true

/-- Runs a shell with an environment and arguments. -/
def run (r : Runner) (dialect : Dialect) (called : String) (environment : List (String × String))
    (args : List String) : Act Unit :=
  ending do
    prepare dialect called environment
    let i ← ofArgs (args.length + 1) {} args
    let begin := fun (name : String) (args : List String) =>
      modify fun s => { s with
        name, args, line := 1, ownReached := if i.command then none else some 1 }
    let text := fun (script : List Char) =>
      r.script { rest := Simple.readable script, dialect }
    if i.command then
      match i.operands with
      | [] =>
        match dialect with
        | .dash => refuse "-c requires an argument"
        | .bash => refuse "-c: option requires an argument"
      | script :: rest =>
        begin (rest.headD called) (rest.drop 1)
        modify fun s => { s with readMark := "-c: " }
        text script.toList
    else if i.operands.isEmpty || (← get).on "stdin" then
      modify fun s => s.switch "stdin" true
      begin called i.operands
      match dialect with
      | .dash => text (← readAll 0)
      | .bash =>
        modify withoutZeros
        Run.inputScript r
    else
      let file := i.operands.headD ""
      let s ← get
      match s.openToRead file with
      | .error e =>
        match dialect with
        | .dash => refuse ("cannot open " ++ file ++ ": " ++ Redirection.reasonOf "No such file" e)
        | .bash =>
          match (if file.contains '/' then [] else Builtin.places s s.searchPath file) with
          | path :: _ =>
            begin path (i.operands.drop 1)
            modify fun s => { s with file := some path }
            text ((s.openToRead path).toOption.elim [] fun opened => match opened with
              | .inl _ => []
              | .inr channel => channel.rest s.files)
          | [] =>
            warn (called ++ ": " ++ file ++ ": " ++ e.reason ++ "\n")
            finish (if e = .notFound then 127 else 126)
      | .ok (.inr .folder) =>
        match dialect with
        | .dash => finish 0
        | .bash =>
          warn (file ++ ": " ++ file ++ ": Is a directory\n")
          finish 126
      | .ok opened =>
        if dialect = .bash && !Program.isRichScript (Simple.contentAt s file) then
          warn (file ++ ": " ++ file ++ ": cannot execute binary file\n")
          finish 126
          throw .exit
        begin file (i.operands.drop 1)
        modify fun s => { s with file := some file }
        match opened with
        | .inl index => text ((s.channels[index]?.map (·.rest s.files)).getD [])
        | .inr channel => text (channel.rest s.files)
where
  /-- The input without zeros, if it is no file. -/
  withoutZeros (s : State) : State :=
    match s.channel? 0 with
    | some (index, .source rest winds) =>
      { s with channels := s.channels.set! index (.source (Simple.readable rest) winds) }
    | _ => s
  /-- Ends the shell. -/
  ending (action : Act Unit) : Act Unit := Run.ending r action

end RemoteAttach.Shell.Start
