import RemoteAttach.Shell.Builtin.Options
import RemoteAttach.Shell.Trace

/-! The commands of a shell for its variables and options: they set, mark, hide and remove
variables, list them in a form that the shell reads again, and set the arguments. -/

namespace RemoteAttach.Shell.Builtin

open Act

/-- A list that is given to a command as an argument: the name, whether it is added to the list
that is there, and the items. -/
structure GivenList where
  name : String
  appends : Bool
  items : List (Option String × String)

/-- The variables by rising names. -/
def sorted (vars : List (String × Variable)) : List (String × Variable) :=
  vars.mergeSort fun a b => a.1 ≤ b.1

/-- A value as the larger shell lists it without the marks of its variable. -/
def plainValue (text : String) : String :=
  let chars := text.toList
  if chars.any fun c => c < ' ' || '~' < c then Format.quotedWord text
  else if chars.any fun c => !(c.isAlphanum || "_%+,-./:=@".toList.contains c) then
    "'" ++ text.replace "'" "'\\''" ++ "'"
  else text

/-- The lines that list all variables. -/
def listing (s : State) : List String :=
  (sorted s.vars).filterMap fun (name, v) =>
    v.value.map fun value =>
      match s.dialect, value with
      | .dash, value => name ++ "=" ++ quoted value.firstText
      | .bash, value => name ++ "=" ++ value.written plainValue

/-- The lines that list the variables with a mark. -/
def marked (s : State) (command : String) (mark : Variable → Bool) : List String :=
  ((sorted s.vars).filter fun (_, v) => mark v).map fun (name, v) =>
    match s.dialect with
    | .dash =>
      command ++ " " ++ name ++ (v.value.elim "" fun value => "=" ++ quoted value.firstText)
    | .bash => v.declaration name

/-- Changes the marks of a variable. -/
def mark (name : String) (change : Variable → Variable) : Act Unit := do
  let s ← get
  let name := s.meant name 10
  set (s.put name (change ((s.lookup name).getD {})))

/-- Exports variables or makes them readable only, in the smaller shell. -/
def markAll (command : String) (change : Variable → Variable) (holds : Variable → Bool)
    (args : List String) : Act Unit := do
  let (found, args) ← options command "p" args
  if args.isEmpty || has found 'p' then
    say command (unlines (marked (← get) command holds))
  else
    forAll args fun arg => do
      let (name, value) := (assignment? arg).elim (arg, none) fun (name, value) =>
        (name, some value)
      if !isName name then refuse command (name ++ ": bad variable name")
      match value with
      | some value => assign name value
      | none => pure ()
      mark name change
    finish 0

/-- Hides variables from what is around the function that runs, in the smaller shell. -/
def hideAll (args : List String) : Act Unit := do
  if (← get).scopes.isEmpty || !(← get).inFunction then refuse "local" "not in a function"
  forAll args fun arg => do
    let (name, value) := (assignment? arg).elim (arg, none) fun (name, value) =>
      (name, some value)
    if name ≠ "-" then
      if !isName name then refuse "local" (name ++ ": bad variable name")
      modify fun s => s.hide name
      match value with
      | some value => assign name value
      | none => pure ()
  finish 0

/-- The marks that letters stand for. -/
def withMarks (letters : List (Char × String)) (drop : List Char) (v : Variable) : Variable :=
  let has := fun c => has letters c
  { v with
    exported := (v.exported || has 'x') && !drop.contains 'x'
    integer := (v.integer || has 'i') && !drop.contains 'i'
    raises := if has 'u' then some true else if has 'l' then some false
      else if drop.contains 'u' || drop.contains 'l' then none else v.raises
    points := (v.points || has 'n') && !drop.contains 'n'
    value := match v.value with
      | some (.table items) => some (.table items)
      | some (.items items) => some (.items items)
      | some (.text text) =>
        if has 'A' then some (.table [("0", text)])
        else if has 'a' then some (.items [(0, text)])
        else some (.text text)
      | none => if has 'A' then some (.table []) else if has 'a' then some (.items []) else none }

/-- The letters of arguments that take marks away, and the other arguments. -/
def dropped (args : List String) : List Char × List String :=
  match args with
  | arg :: rest =>
    if arg.startsWith "+" && 1 < arg.length then
      let (letters, others) := dropped rest
      (arg.toList.drop 1 ++ letters, others)
    else ([], args)
  | [] => ([], [])

/-- The options of a command that declares variables. -/
def declareLetters (command : String) : String :=
  match command with
  | "export" => "fnp"
  | "readonly" => "aAfp"
  | _ => "aAfFgiIlnprtux"

/-- Complains about an argument of a command, and gives it the status 1. -/
def deplore (command text : String) : Act Unit := do
  report command text
  finish 1

/-- The functions by rising names. -/
def sortedFunctions (s : State) : List (String × Function) :=
  s.functions.mergeSort fun a b => a.1 ≤ b.1

/-- The line that declares the marks of a function. -/
def markLine (name : String) (f : Function) : String :=
  let marks := (if f.readonly then "r" else "") ++ (if f.exported then "x" else "")
  "declare -f" ++ marks ++ " " ++ name

/-- Tells which functions there are, or marks those that are named. -/
def tellFunctions (command : String) (namesOnly exports fixes drops : Bool)
    (names : List String) : Act Unit := do
  let s ← get
  let marks := exports || fixes
  let isKnown := fun (name : String) => (s.functions.lookup name).isSome
  let status := if names.all isKnown then 0 else 1
  if names.isEmpty then
    let wanted := (sortedFunctions s).filter fun (_, f) =>
      (!exports || f.exported) && (!fixes || f.readonly)
    say command (unlines (wanted.flatMap fun (name, f) =>
      (if namesOnly then [] else [Layout.functionAt name f.written]) ++
        (if namesOnly || f.exported || f.readonly then [markLine name f] else [])))
  else if marks then
    forAll names fun name => do
      match (← get).functions.lookup name with
      | some f =>
        let f := { f with
          exported := if exports then !drops else f.exported, readonly := f.readonly || fixes }
        modify fun s => { s with functions := putPair name f s.functions }
      | none => report command (name ++ ": not a function")
    finish status
  else
    say command (unlines (names.filterMap fun name =>
      (s.functions.lookup name).map fun f =>
        if namesOnly then name else Layout.functionAt name f.written)) status

/-- Declares one variable, as an argument says. -/
def declareOne (r : Runner) (command : String) (hides : Bool) (found : List (Char × String))
    (drop : List Char) (lists : List GivenList) (arg : String) : Act Unit := do
  let parsed := match Reading.assigned? .bash arg.toList with
    | some (name, key, append, count) =>
      some (String.ofList name, key.map String.ofList, append,
        some (String.ofList (arg.toList.drop count)))
    | none => if isName arg then some (arg, none, false, none) else none
  match parsed with
  | none => deplore command ("`" ++ arg ++ "': not a valid identifier")
  | some (name, key, append, value) =>
    match value with
    | some value =>
      if command = "export" || command = "readonly" then
        Trace.setting r name (Trace.value value) append
    | none => pure ()
    let s ← get
    let isOuter := hides && s.scopes.head?.any fun saved => (saved.lookup name).isNone
    let isFixed := (s.lookup name).any (·.readonly)
    if isOuter && !isFixed then
      modify fun s => s.hide name
      modify fun s => s.unset name
    let s ← get
    let points := has found 'n'
    let target := if points then name else s.meant name 10
    let old := (s.lookup target).getD {}
    let list := lists.find? (·.name = name)
    if isOuter && isFixed || old.readonly && (value.isSome || list.isSome) then
      let words := name ++ ": readonly variable"
      if command = "export" || command = "readonly" then
        complain words
        finish 1
      else deplore command words
    else
      set (s.put target (withMarks found drop old))
      match list, key, value with
      | some list, _, _ => assignList name list.appends list.items
      | none, some key, some value => assignItem name key value append
      | none, none, some value =>
        if points then
          modify fun s => s.put name { (s.lookup name).getD {} with value := some (.text value) }
        else if append then Act.append name value
        else assign name value
      | none, _, none => pure ()
      if has found 'r' then
        modify fun s => s.put target { (s.lookup target).getD {} with readonly := true }

/-- Declares variables of the larger shell, some of them with lists. -/
def declare (r : Runner) (command : String) (args : List String) (lists : List GivenList) :
    Act Unit := do
  let s ← get
  if command = "local" && !s.inFunction then refuse command "can only be used in a function" 1
  let (found, args) ← options command (declareLetters command) args
  let (drop, args) := dropped args
  let ofFunctions := has found 'f' || has found 'F'
  let drops := command = "export" && has found 'n'
  let (found, drop) := match command with
    | "export" => if drops then ([], 'x' :: drop) else (('x', "") :: found, drop)
    | "readonly" => (('r', "") :: found, drop)
    | _ => (found, drop)
  let hides := s.inFunction && command ≠ "export" && command ≠ "readonly" &&
    !has found 'g'
  if ofFunctions then
    tellFunctions command (has found 'F') (has found 'x' || drops) (has found 'r') drops args
  else if args.isEmpty then
    let wanted := fun (v : Variable) =>
      found.all fun (c, _) => c = 'p' || c = 'g' || v.letters.toList.contains c
    if command = "local" then
      let names := (s.scopes.headD []).map (·.1)
      let here := { s with vars := s.vars.filter fun (name, _) => names.contains name }
      say command (unlines (marked here command fun _ => true))
    else if found.isEmpty then say command (unlines (listing s))
    else say command (unlines (marked s command wanted))
  else if has found 'p' && command ≠ "export" && command ≠ "readonly" then
    finish 0
    forAll args fun name => do
      match (← get).lookup name with
      | some v =>
        let status := (← get).status
        say command (unlines [v.declaration name]) status
      | none => deplore command (name ++ ": not found")
  else
    finish 0
    forAll args (declareOne r command hides found drop lists)

/-- Removes variables and functions. -/
def unset (args : List String) : Act Unit := do
  let s ← get
  let (found, args) ← options "unset" (if s.dialect = .dash then "vf" else "fnv") args
  finish 0
  let drop := fun (name : String) => modify fun s =>
    { s with functions := s.functions.filter (·.1 ≠ name) }
  forAll args fun arg => do
    let s ← get
    if has found 'f' then
      match s.functions.lookup arg with
      | some { readonly := true, .. } =>
        report "unset" (arg ++ ": cannot unset: readonly function")
        finish 1
      | _ => drop arg
    else
      match s.dialect with
      | .dash =>
        if !isName arg then refuse "unset" (arg ++ ": bad variable name")
        remove arg
      | .bash =>
        match Text.cutAt '[' arg.toList with
        | some (name, key) =>
          removeItem (String.ofList name) (String.ofList (key.takeWhile (· ≠ ']')))
        | none =>
          if has found 'v' || (s.lookup arg).isSome then remove arg
          else drop arg
where
  /-- Takes an item of a list away. -/
  removeItem (name key : String) : Act Unit := do
    let s ← get
    match s.lookup name with
    | some v =>
      let value ← match v.value with
        | some (.table items) => pure (some (.table (items.filter (·.1 ≠ key))))
        | some (.items items) => do
          let n ← arithmetic key
          let place := placeIn items n
          pure (some (.items (items.filter fun (m, _) => some m ≠ place)))
        | other => pure other
      set (s.put name { v with value })
    | none => pure ()

/-- Drops the first arguments. -/
def shift (args : List String) : Act Unit := do
  let s ← get
  match s.dialect, args with
  | .dash, arg :: _ =>
    match Text.count? arg.toList with
    | some n => drop s n
    | none => refuse "shift" ("Illegal number: " ++ arg)
  | .bash, arg :: more =>
    match Sum.legal? arg with
    | some n =>
      if !more.isEmpty then
        report "shift" "too many arguments"
        finish 1
        throw .discard
      else if n < 0 then refuse "shift" (arg ++ ": shift count out of range") 1
      else drop s n.toNat
    | none => refuse "shift" (arg ++ ": numeric argument required") 1
  | _, [] => drop s 1
where
  /-- Drops some arguments, if there are as many. -/
  drop (s : State) (count : Nat) : Act Unit := do
    if count ≤ s.args.length then
      set { s with args := s.args.drop count }
      finish 0
    else
      match s.dialect with
      | .dash => refuse "shift" "can't shift that many"
      | .bash => finish 1

/-- The lines that list the options, or that set them as they are. -/
def optionLines (s : State) (asCommands : Bool) : List String :=
  let lines := (Switch.names s.dialect).map fun name =>
    if asCommands then "set " ++ (if s.on name then "-o " else "+o ") ++ name
    else
      let filling := String.ofList (List.replicate
        ((if s.dialect = .dash then 16 else 15) - name.length) ' ')
      name ++ filling ++ (if s.dialect = .dash then "" else "\t") ++
        (if s.on name then "on" else "off")
  if s.dialect = .dash && !asCommands then "Current option settings" :: lines else lines

/-- Takes options of the shell from the start of some arguments, and gives the arguments after
them, if there are any or a mark says that there are none. -/
def takeOptions : Nat → List String → Act (Option (List String))
  | 0, _ => pure none
  | _, [] => pure none
  | fuel + 1, arg :: rest => do
    let s ← get
    match arg.toList with
    | ['-', '-'] => pure (some rest)
    | ['-'] =>
      set ((s.switch "xtrace" false).switch "verbose" false)
      pure (if rest.isEmpty then none else some rest)
    | ['+'] => takeOptions fuel rest
    | sign :: letters =>
      if letters.isEmpty || (sign ≠ '-' && sign ≠ '+') then pure (some (arg :: rest))
      else takeOptions fuel (← takeLetters (sign = '-') rest letters)
    | [] => pure (some (arg :: rest))
where
  /-- Takes options in the form of letters; one of them takes the name of an option from the
  arguments that follow. -/
  takeLetters (on : Bool) (rest : List String) : List Char → Act (List String)
    | [] => pure rest
    | 'o' :: letters => do
      let s ← get
      match rest with
      | [] =>
        say "set" (unlines (optionLines s !on))
        takeLetters on [] letters
      | name :: rest =>
        if (Switch.names s.dialect).contains name then
          set (s.switch name on)
          takeLetters on rest letters
        else
          match s.dialect with
          | .dash => refuse "set" ("Illegal option -o " ++ name)
          | .bash => refuse "set" (name ++ ": invalid option name") 2
    | letter :: letters => do
      let s ← get
      match (Switch.letters s.dialect).lookup letter with
      | some name =>
        if name = "command" || (s.dialect = .bash && name = "stdin") then
          refuseOption "set" letter
        else
          if on && name = "monitor" && s.dialect = .dash then
            warn (prelude s s.line ++ "set: can't access tty; job control turned off\n")
          else set (s.switch name on)
          takeLetters on rest letters
      | none =>
        match s.dialect, on with
        | .bash, false =>
          report "set" ("+" ++ letter.toString ++ ": invalid option")
          refuseUsage "set"
        | _, _ => refuseOption "set" letter

/-- Takes options and arguments of the shell, or lists the variables. -/
def setAll (args : List String) : Act Unit := do
  if args.isEmpty then
    let s ← get
    let functions := match s.dialect with
      | .dash => []
      | .bash => (sortedFunctions s).map fun (name, f) => Layout.functionAt name f.written
    say "set" (unlines (listing s ++ functions))
  else
    finish 0
    match ← takeOptions (args.length + 1) args with
    | some args => modify fun s => { s with args }
    | none => pure ()

/-- Evaluates expressions; the last one gives the status. -/
def compute (args : List String) : Act Unit := do
  if args.isEmpty then refuse "let" "expression expected" 1
  let value ← args.foldlM (fun (_ : Int) arg => arithmetic arg) 0
  finish (if value = 0 then 1 else 0)

end RemoteAttach.Shell.Builtin
