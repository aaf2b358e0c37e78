import RemoteAttach.Shell.Braces
import RemoteAttach.Shell.Builtin
import RemoteAttach.Shell.Redirect
import RemoteAttach.Shell.Trace

/-! Simple commands: assignments, and the function, the command of the shell or the program that
some fields call. Assignments before a call last as long as it does, but for the special commands
of the smaller shell. -/

namespace RemoteAttach.Shell.Simple

open Act

/-- A word that has the form of an assignment: its text up to the value, and the value. -/
def assignmentWord? (dialect : Dialect) : Word → Option (List Char × Word)
  | .literal text false :: rest =>
    match Reading.assigned? dialect text with
    | some (_, none, _, count) =>
      let value := text.drop count
      some (text.take count, if value.isEmpty then rest else .literal value false :: rest)
    | _ => none
  | _ => none

/-- The fields of a word that is cut. -/
def cutWord (r : Runner) (word : Word) : Act (List String) := do
  let atoms ← r.expand {} word
  let s ← get
  let found ← (Field.cut s.separators atoms).mapM fun field => do
    let paths := Field.paths s.globbing s.files s.folder field
    if s.on "failglob" && !s.on "noglob" && Pattern.isOpen s.patternForm field then
      if (Field.pathsFrom s.globbing s.files s.folder true "" (Field.components field)).isEmpty then
        fail ("no match: " ++ Glyph.text field)
    pure paths
  pure found.flatten

/-- The fields of a word. Those of the larger shell may come from braces, and the value of what
looks like an assignment may begin with a home folder. -/
def fieldsOf (r : Runner) (word : Word) : Act (List String) := do
  let s ← get
  match s.dialect with
  | .dash => cutWord r (Expand.withHome s word)
  | .bash =>
    let words := if s.on "braceexpand" then Braces.expand word else [word]
    let fields ← words.mapM fun word =>
      match assignmentWord? .bash word with
      | some (start, value) => cutWord r (.literal start false :: Expand.withHomes s value)
      | none => cutWord r (Expand.withHome s word)
    pure fields.flatten

/-- The field of a word that has the form of an assignment and is not cut, or its fields. -/
def uncutFields (r : Runner) (word : Word) : Act (List String) := do
  let s ← get
  match assignmentWord? s.dialect word with
  | some (start, value) =>
    pure [String.ofList start ++ (← Expand.textOf r (Expand.withHomes s value))]
  | none => fieldsOf r word

/-- The commands whose arguments may be assignments. -/
def takesAssignments (dialect : Dialect) (name : String) : Bool :=
  match dialect with
  | .dash => ["alias", "export", "local", "readonly"].contains name
  | .bash => Reading.listTakers.contains name || name = "alias"

/-- The items of a list that a word writes. -/
def itemsOf (r : Runner) (items : List (Option Word × Word)) :
    Act (List (Option String × String)) := do
  let found ← items.mapM fun (key, word) =>
    match key with
    | some key => do
      let key ← Expand.textOf r key
      let value ← Expand.textOf r (Expand.withHomes (← get) word)
      pure [(some key, value)]
    | none => do
      let fields ← fieldsOf r word
      pure (fields.map fun text => (none, text))
  pure found.flatten

/-- The list that a word gives to a command. -/
def givenList? : Word → Option (String × Bool × List (Option Word × Word))
  | [.literal text false, .items items] =>
    let name := text.takeWhile isNameChar
    some (String.ofList name, (text.drop name.length).head? = some '+', items)
  | _ => none

/-- What some words become: fields, and the lists among them. -/
structure Expanded where
  fields : List String := []
  lists : List Builtin.GivenList := []

/-- What words become. The name of the command among them decides about the words after it. -/
def expandAll (r : Runner) : List Word → Expanded → Act Expanded
  | [], done => pure done
  | word :: rest, done => do
    let dialect := (← get).dialect
    let command := done.fields.find? fun name => name ≠ "command" && name ≠ "builtin"
    let uncut := command.any (takesAssignments dialect)
    match givenList? word with
    | some (name, appends, items) =>
      let items ← itemsOf r items
      Trace.setting r name (Trace.list items) appends
      expandAll r rest {
        fields := done.fields ++ [name], lists := done.lists ++ [⟨name, appends, items⟩] }
    | none =>
      let fields ← if uncut then uncutFields r word else fieldsOf r word
      expandAll r rest { done with fields := done.fields ++ fields }

/-- Makes an assignment, and gives its name and value. -/
def assignOne (r : Runner) (exported hides : Bool) (setting : Setting) :
    Act (String × String) := do
  match setting with
  | .text name key appends value =>
    let s ← get
    let text ← Expand.textOf r (Expand.withHomes s value)
    match key with
    | some key =>
      let key ← Expand.textOf r key
      Trace.setting r (name ++ "[" ++ key ++ "]") (Trace.value text) appends
      if hides then modify fun s => s.hide name
      assignItem name key text appends
    | none =>
      Trace.setting r name (Trace.value text) appends
      if hides then modify fun s => s.hide name
      if appends then append name text exported else assign name text exported
    pure (name, text)
  | .list name appends written items =>
    if (← get).on "xtrace" then Trace.setting r name (Layout.listAt written) appends
    let found ← itemsOf r items
    if hides then modify fun s => s.hide name
    assignList name appends found
    pure (name, "")

/-- The name of the variable that an assignment sets. -/
def settingName : Setting → String
  | .text name .. | .list name .. => name

/-- Makes the assignments before a call, and gives their names and values. The larger shell passes
over a variable that is only to be read. -/
def assignBefore (r : Runner) (exported hides : Bool) (settings : List Setting) :
    Act (List (String × String)) := do
  let shown ← settings.mapM fun setting => do
    let s ← get
    let name := settingName setting
    if s.dialect = .bash && (s.lookup (s.meant name 10)).any (·.readonly) then
      complain (name ++ ": readonly variable")
      pure []
    else pure [← assignOne r exported hides setting]
  pure shown.flatten

/-- An event happens inside a function or a process of its own as well. -/
def isInherited (s : State) (event : String) : Bool :=
  s.on (if event = "ERR" then "errtrace" else "functrace")

/-- The actions for events that do not happen inside a function. -/
def outerEvents (s : State) : List (String × String) :=
  s.traps.filter fun (name, _) => Builtin.eventNames.contains name && !isInherited s name

/-- The actions that remain in a process that a shell makes of itself: those for signals that are
ignored and for some events. -/
def keptTraps (s : State) : List (String × String) :=
  s.traps.filter fun (name, text) =>
    text.isEmpty || (Builtin.eventNames.contains name && isInherited s name)

/-- The number of calls of functions that the smaller shell lets run inside each other. -/
def mostCalls : Nat := 1000

/-- Calls a function. -/
def callFunction (r : Runner) (f : Function) (name : String) (args : List String) : Act Unit := do
  let before ← get
  if before.dialect = .dash && mostCalls ≤ before.calls.length then
    complain ("Maximum function recursion depth (" ++ toString mostCalls ++ ") reached")
    finish 2
    throw .failure
  let origin := if before.dialect = .bash && before.on "command" && before.origin.isNone then
    some "environment" else before.origin
  let outer := outerEvents before
  let outcome ← observe (inScope do
    modify fun s => { s with
      traps := s.traps.filter fun (name, _) => (outer.lookup name).isNone
      args, calls := ⟨name, s.line, f.source, true⟩ :: s.calls, loops := 0, origin, shift := 0
      optionIndex := if s.dialect = .dash then 1 else s.optionIndex
      optionPlace := if s.dialect = .dash then 0 else s.optionPlace }
    let outcome ← observe (r.command f.body)
    match outcome with
    | .ok () | .error .fromFunction =>
      let _ ← Builtin.runTrap r "RETURN"
    | _ => pure ()
    conclude outcome)
  modify fun s => { s with
    traps := outer.foldl (fun traps (name, text) => putPair name text traps) s.traps
    line := if s.dialect = .dash then s.line else before.line
    args := before.args, calls := before.calls, loops := before.loops, origin := before.origin
    shift := before.shift
    optionIndex := if s.dialect = .dash then before.optionIndex else s.optionIndex
    optionPlace := if s.dialect = .dash then before.optionPlace else s.optionPlace }
  match outcome with
  | .error .fromFunction => pure ()
  | outcome => conclude outcome

/-- The interpreter that a file names, if there is no such program. -/
def missingInterpreter? (s : State) (name : String) : Option String :=
  match s.files.stat s.folder name with
  | .ok (.file content _) =>
    match Program.interpreter? content with
    | some (interpreter, _) =>
      if (s.files.programAt s.folder interpreter).isOk then none else some interpreter
    | none => none
  | _ => none

/-- Why the smaller shell cannot run a name as a program. -/
def refusePlain (name : String) (e : FileError) (mark : String) : Act Unit := do
  let reason := match e with
    | .notFound | .notDirectory => "not found"
    | e => e.reason
  let status := match e with
    | .notFound | .notDirectory | .tooManyLinks | .nameTooLong => 127
    | _ => 126
  complain (mark ++ name ++ ": " ++ reason)
  finish (if !name.contains '/' && mark.isEmpty then 127 else status)

/-- Why the larger shell cannot run the file at a path. To become that program is refused in words
of its own. -/
def refuseRich (path : String) (e : FileError) (becomes : Bool) : Act Unit := do
  let s ← get
  let e := if s.files.isFolder s.folder path then .isDirectory else e
  match missingInterpreter? s path, e with
  | some _, .notFound =>
    complain (path ++ ": cannot execute: required file not found")
    finish 127
  | some interpreter, e =>
    let place := path ++ ": " ++ interpreter
    warn (s.name ++ ": " ++ place ++ ": bad interpreter: " ++ e.reason ++ "\n")
    if becomes then complain (path ++ ": " ++ e.reason)
    finish 126
  | none, e =>
    complain (path ++ ": " ++ e.reason)
    if becomes && e ≠ .notFound then
      complain ("exec: " ++ path ++ ": cannot execute: " ++ e.reason)
    finish (if e = .notFound then 127 else 126)

/-- The path of the file that the larger shell takes for the program of a name: the first one along
the search path that can be run, or else the first one that is no folder. -/
def pathOf? (s : State) (searchPath name : String) : Option String :=
  if name.contains '/' || searchPath.isEmpty then some name
  else
    let along := (FileTree.candidates searchPath name).map fun text =>
      if text = name then "./" ++ text else text
    let regular := along.filter fun text => s.files.isFile s.folder text
    (regular.find? fun text => (s.files.facts s.folder text).toOption.any (·.isExecutable)).or
      regular.head?

/-- The environment for a program at a path. The larger shell tells it that path, or counts one
level less if it becomes that program. -/
def environmentFor (s : State) (path : String) (becomes : Bool) : List (String × String) :=
  match s.dialect with
  | .dash => s.environment
  | .bash =>
    let others := s.environment.filter (·.1 ≠ "_") ++
      (s.functions.filter (·.2.exported)).map fun (name, f) =>
        ("BASH_FUNC_" ++ name ++ "%%", Layout.exportedAt f.written)
    if becomes then
      others.map fun (name, text) =>
        if name = "SHLVL" then (name, toString ((text.toNat?.getD 1) - 1)) else (name, text)
    else others ++ [("_", path)]

/-- Runs a program in a process of its own, and keeps in mind where it was found. -/
def startProgram (r : Runner) (becomes : Bool) (searchPath name : String) (program : Program)
    (args : List String) : Act Unit := do
  let s ← get
  let path := if name.contains '/' then name else (Builtin.places s searchPath name).headD name
  if !name.contains '/' && (s.dialect = .bash || searchPath = s.searchPath) then
    match Builtin.places s searchPath name with
    | path :: _ =>
      let runs := ((s.found.lookup name).map (·.runs)).getD 0
      modify fun s => { s with found := putPair name ⟨path, runs + 1⟩ s.found }
    | [] => pure ()
  let program := if program.args.isEmpty then { program with called := name } else program
  let run := r.program (environmentFor s path becomes) program args
  if becomes then
    match ← child run with
    | some signal => throw (.killed signal)
    | none => pure ()
  else isolated run

/-- What a file holds that may be a script. -/
def contentAt (s : State) (text : String) : ByteArray :=
  (s.files.read s.folder text).toOption.getD .empty

/-- Runs the program of a name in a process of its own. -/
def callProgram (r : Runner) (mark : String) (usual : Bool) (name : String)
    (args : List String) : Act Unit := do
  let s ← get
  let searchPath := if usual then Builtin.usualPath s.dialect else s.searchPath
  let becomes := !mark.isEmpty
  match s.dialect with
  | .dash =>
    if name.isEmpty then refusePlain name .permissionDenied mark
    else
      match s.files.programNamed s.folder searchPath name with
      | .ok program => startProgram r becomes searchPath name program args
      | .error (text, .notExecutable) =>
        if Program.isScript (contentAt s text) then
          isolated (r.program s.environment ⟨"sh", "sh", [text]⟩ args)
        else refusePlain name .notExecutable mark
      | .error (_, e) => refusePlain name e mark
  | .bash =>
    match (if name.isEmpty then none else pathOf? s searchPath name) with
    | none =>
      if becomes && s.files.isFolder s.folder name then
        complain (mark ++ name ++ ": cannot execute: Is a directory")
        finish 126
      else
        complain (mark ++ name ++ ": " ++ if becomes then "not found" else "command not found")
        finish 127
    | some path =>
      match s.files.programAt s.folder path with
      | .ok program => startProgram r becomes searchPath name program args
      | .error .notExecutable =>
        if Program.isRichScript (contentAt s path) then
          isolated (r.program (environmentFor s path false) ⟨"bash", "bash", [path]⟩ args)
        else
          complain (path ++ ": cannot execute binary file: " ++ FileError.notExecutable.reason)
          finish 126
      | .error e =>
        let shown := if !becomes || path.startsWith "/" then path
          else s.folderText ++ "/" ++ (if path.startsWith "./" then path.drop 2 else path)
        refuseRich shown e becomes

/-- What some fields call. -/
structure Call where
  fields : List String
  /-- Functions are passed over. -/
  plain : Bool := false
  /-- Only commands of the shell are meant. -/
  own : Bool := false
  /-- The folders for programs are the usual ones. -/
  usual : Bool := false

/-- What is called when the words that only say how to call it are taken away. -/
def Call.unwrap (isFunction : String → Bool) (dialect : Dialect) : Nat → Call → Call
  | 0, call => call
  | fuel + 1, call =>
    match call.fields with
    | name :: rest =>
      if isFunction name && !call.plain then call
      else if name = "command" then
        match rest with
        | "-p" :: first :: more =>
          if first.startsWith "-" then call
          else Call.unwrap isFunction dialect fuel
            { call with fields := first :: more, plain := true, usual := true }
        | "--" :: first :: more =>
          Call.unwrap isFunction dialect fuel { call with fields := first :: more, plain := true }
        | first :: _ =>
          if first.startsWith "-" then call
          else Call.unwrap isFunction dialect fuel { call with fields := rest, plain := true }
        | [] => call
      else if name = "builtin" && dialect = .bash then
        match rest with
        | first :: _ =>
          if first.startsWith "-" then call
          else Call.unwrap isFunction dialect fuel
            { call with fields := rest, plain := true, own := true }
        | [] => call
      else call
    | [] => call

/-- Does `command` where it is not followed by what it is to run. -/
def tellCommand (args : List String) : Act Unit := do
  let (found, args) ← Builtin.options "command" "pvV" args
  let usual := Builtin.has found 'p'
  if Builtin.has found 'v' then Builtin.describe usual args false
  else if Builtin.has found 'V' then Builtin.describe usual args true
  else finish 0

/-- The script in a text, as the shell reads it now. -/
def sourceOf (s : State) (text : String) (line : Nat) : Source :=
  { rest := text.toList, line, dialect := s.dialect }

/-- Runs the script that some arguments make. -/
def evaluate (r : Runner) (args : List String) : Act Unit := do
  let s ← get
  let args := if args.head? = some "--" && s.dialect = .bash then args.drop 1 else args
  let text := String.intercalate " " args
  let first := match s.dialect with
    | .dash => 1
    | .bash => s.line
  modify fun s => { s with nesting := s.nesting + 1, readMark := "eval: " }
  let outcome ← observe do
    if text.toList.all fun c => c = ' ' || c = '\n' || c = '\t' then finish 0
    else r.script (sourceOf s text first)
  modify fun after => { after with nesting := s.nesting, readMark := s.readMark }
  conclude outcome

/-- A script without the zeros in it, which no shell reads. -/
def readable (script : List Char) : List Char :=
  script.filter (· ≠ '\x00')

/-- The most zeros in a file that the larger shell reads as a script. -/
def maxZeros : Nat := 256

/-- The text of the script that a file holds, if it can be read. -/
def scriptAt (s : State) (name : String) : Except FileError (String × String) := do
  let texts := if name.contains '/' then [name]
    else
      let along := FileTree.candidates s.searchPath name
      match s.dialect with
      | .dash => along
      | .bash => along ++ [name]
  match texts.filter fun text => s.files.isFile s.folder text || (State.openToRead s text).isOk with
  | text :: _ =>
    match ← s.openToRead text with
    | .inl index =>
      .ok (text, String.ofList ((s.channels[index]?.map (·.rest s.files)).getD []))
    | .inr .folder => .error .isDirectory
    | .inr channel => .ok (text, String.ofList (channel.rest s.files))
  | [] => .error .notFound

/-- Runs the script in a file. -/
def runFile (r : Runner) (name : String) (args : List String) : Act Unit := do
  let s ← get
  let args := if args.head? = some "--" then args.drop 1 else args
  match args with
  | [] =>
    match s.dialect with
    | .dash => finish 0
    | .bash =>
      Builtin.report name "filename argument required"
      Builtin.refuseUsage name
  | file :: args =>
    match scriptAt s file with
    | .error .isDirectory =>
      match s.dialect with
      | .dash => finish 0
      | .bash => Builtin.refuse name (file ++ ": is a directory") 1
    | .error e =>
      match s.dialect with
      | .dash =>
        if file.contains '/' then
          Builtin.refuse name ("cannot open " ++ file ++ ": " ++
            Redirection.reasonOf "No such file" e)
        else Builtin.refuse name (file ++ ": not found")
      | .bash =>
        complain (file ++ ": " ++ e.reason)
        finish 1
        throw .failure
    | .ok (path, text) =>
      let zeros := text.toList.length - (readable text.toList).length
      if s.dialect = .bash && maxZeros < zeros then
        Builtin.refuse name (path ++ ": cannot execute binary file") 126
      let text := String.ofList (readable text.toList)
      modify fun s => { s with
        status := 0, nesting := s.nesting + 1
        builtin := if s.dialect = .dash then some path else none
        origin := some path, readMark := ""
        calls := if s.dialect = .dash then s.calls
          else ⟨"source", s.line, path, false⟩ :: s.calls
        args := if s.dialect = .dash || args.isEmpty then s.args else args }
      let outcome ← observe (r.script (sourceOf s text 1))
      modify fun after => { after with
        nesting := s.nesting, builtin := s.builtin, origin := s.origin, readMark := s.readMark
        calls := s.calls
        args := if s.dialect = .dash || args.isEmpty then after.args else s.args }
      let _ ← Builtin.runTrap r "RETURN"
      match outcome with
      | .error .fromFunction => pure ()
      | outcome => conclude outcome

/-- Does a command of the shell under its name. -/
def callBuiltin (r : Runner) (special : Bool) (lists : List Builtin.GivenList) (name : String)
    (args : List String) : Act Unit := do
  let s ← get
  let shown := match s.dialect with
    | .dash => some name
    | .bash => if name = "let" then some name else none
  modify fun s => { s with builtin := shown }
  let outcome ← observe do
    match name with
    | "eval" => evaluate r args
    | "." | "source" => runFile r name args
    | "command" => tellCommand args
    | "builtin" => finish 0
    | _ =>
      if lists.isEmpty then Builtin.run r name args else Builtin.declare r name args lists
  modify fun after => { after with builtin := s.builtin }
  match outcome with
  | .error .failure => if special then throw .failure
  | .error .discard =>
    if ["eval", ".", "source", "break", "continue", "exit", "return", "shift"].contains name then
      throw .discard
  | outcome => conclude outcome

/-- Becomes a program. -/
def become (r : Runner) (args : List String) : Act Unit := do
  let args := if args.head? = some "--" then args.drop 1 else args
  match args with
  | "-a" :: _ :: name :: args | name :: args =>
    let s ← get
    let known := !name.isEmpty && match s.files.programNamed s.folder s.searchPath name with
      | .ok _ | .error (_, .notExecutable) => true
      | .error _ => false
    if known then set { s with traps := [] }
    callProgram r "exec: " false name args
    throw .exit
  | [] => finish 0

/-- Calls what some fields name. -/
def invoke (r : Runner) (call : Call) (lists : List Builtin.GivenList) (special : Bool) :
    Act Unit := do
  match call.fields with
  | [] => pure ()
  | name :: args =>
    let s ← get
    match (if call.plain then none else s.functions.lookup name) with
    | some f => callFunction r f name args
    | none =>
      if name = "exec" then
        if args.isEmpty then finish 0 else become r args
      else if (Builtin.names s.dialect).contains name then callBuiltin r special lists name args
      else if call.own then
        Builtin.report "builtin" (name ++ ": not a shell builtin")
        finish 1
      else callProgram r "" call.usual name args

/-- Runs assignments alone. -/
def assignAll (r : Runner) (settings : List Setting) (redirects : List Redirect) : Act Unit := do
  let streams := (← get).streams
  let run : Act Unit := do
    let shown ← settings.mapM (assignOne r false false)
    let s ← get
    finish (s.substituted.getD 0)
    if s.dialect = .dash then Trace.simple r streams shown []
  match (← get).dialect with
  | .dash => Redirection.during r redirects run (pure ())
  | .bash =>
    run
    modify fun s => { s with lastField := "" }
    if !redirects.isEmpty then Redirection.during r redirects (pure ()) (finish 1)

/-- Runs the scripts that read what has been written, but for some that still wait for more. -/
def drain (r : Runner) (waiting : List Drain) : Act Unit := do
  let s ← get
  let ready := s.drains.take (s.drains.length - waiting.length)
  modify fun s => { s with drains := waiting }
  forAll ready.reverse fun d => isolated do
    let text := ((← get).channels[d.channel]?.map Channel.written).getD []
    modify fun s => { s with streams := d.streams }
    modify fun s => s.openStream 0 (.source text false)
    let outcome ← observe (r.statements d.script)
    concludeProcess outcome

/-- Runs a call with assignments before it. -/
def callWith (r : Runner) (settings : List Setting) (expanded : Expanded)
    (redirects : List Redirect) (waiting : List Drain) : Act Unit := do
  let s ← get
  let isFunction := fun (name : String) => (s.functions.lookup name).isSome
  let call := Call.unwrap isFunction s.dialect (expanded.fields.length + 1)
    { fields := expanded.fields }
  let name := call.fields.headD ""
  let special := !call.plain && !isFunction name && (Builtin.specials s.dialect).contains name
  let isExec := name = "exec" && !(isFunction name && !call.plain)
  let run : Act Unit := do
    let exported := !special || (isExec && 1 < call.fields.length)
    let shown ← assignBefore r exported (!special) settings
    match s.dialect with
    | .dash => Trace.simple r s.streams shown expanded.fields
    | .bash =>
      Trace.line r s.streams (String.intercalate " " (expanded.fields.map Trace.field))
    invoke r call expanded.lists special
  let isOwn := isExec || (!call.plain && isFunction name) || (Builtin.names s.dialect).contains name
  let outcome ← observe do
    let taken ← observe (Redirection.takeAll r redirects)
    let inChild := s.dialect = .bash && !isOwn && match taken with
      | .error .exit | .error .discard => true
      | _ => false
    let taken ← if inChild then pure false else conclude taken
    if taken then
      if settings.isEmpty || special then run else inScope run
    else if special then throw .failure
  modify fun s => { s with lastField := expanded.fields.getLastD "" }
  if s.dialect = .bash && !isOwn then modify fun after => { after with vars := s.vars }
  match outcome with
  | .ok () =>
    if !(isExec && call.fields.length = 1) then
      modify fun after => { after with streams := s.streams }
  | .error _ => modify fun after => { after with streams := s.streams }
  if !isExec then
    let status := (← get).status
    drain r waiting
    finish status
  conclude outcome

/-- Runs a simple command. -/
def run (r : Runner) (line : Nat) (settings : List Setting) (words : List Word)
    (redirects : List Redirect) : Act Unit := do
  modify fun s => { s.reach line with substituted := none }
  let _ ← Builtin.runTrap r "DEBUG"
  let drains := (← get).drains
  let expanded ← expandAll r words {}
  if expanded.fields.isEmpty then assignAll r settings redirects
  else callWith r settings expanded redirects drains

end RemoteAttach.Shell.Simple
