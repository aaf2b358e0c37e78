import RemoteAttach.Files.Facts
import RemoteAttach.Files.Program
import RemoteAttach.Shell.Builtin.Options
import RemoteAttach.Shell.Layout.Reader

/-! What a name means where a command begins, and the commands of a shell that tell or change that:
keywords, aliases, functions, commands of the shell and programs along the search path. -/

namespace RemoteAttach.Shell.Builtin

open Act

/-- The commands of a shell whose assignments remain, and whose misuse ends the smaller shell. -/
def specials : Dialect → List String
  | .dash =>
    [":", ".", "break", "continue", "eval", "exec", "exit", "export", "local", "readonly",
      "return", "set", "shift", "times", "trap", "unset"]
  | .bash => []

/-- The commands of a shell. -/
def names : Dialect → List String
  | .dash =>
    specials .dash ++ ["[", "alias", "bg", "cd", "chdir", "command", "echo", "false", "fg",
      "getopts", "hash", "jobs", "kill", "printf", "pwd", "read", "test", "true", "type",
      "ulimit", "umask", "unalias", "wait"]
  | .bash =>
    [".", ":", "[", "alias", "bg", "bind", "break", "builtin", "caller", "cd", "command",
      "compgen", "complete", "compopt", "continue", "declare", "dirs", "disown", "echo",
      "enable", "eval", "exec", "exit", "export", "false", "fc", "fg", "getopts", "hash",
      "help", "history", "jobs", "kill", "let", "local", "logout", "mapfile", "popd",
      "printf", "pushd", "pwd", "read", "readarray", "readonly", "return", "set", "shift",
      "shopt", "source", "suspend", "test", "times", "trap", "true", "type", "typeset",
      "ulimit", "umask", "unalias", "unset", "wait"]

/-- What a name means. -/
inductive Meaning where
  | keyword
  | alias (text : String)
  | function
  | builtin
  /-- A program, and whether it has been found before. -/
  | program (path : String) (known : Bool)

/-- The texts of the places where the program of a name stands along a search path. -/
def places (s : State) (searchPath name : String) : List String :=
  (FileTree.candidates searchPath name).filter fun text =>
    match s.files.facts s.folder text with
    | .ok facts => facts.kind = .regular && facts.isExecutable
    | .error _ => false

/-- The folders that programs are looked for in if nothing is said. -/
def usualPath : Dialect → String
  | .dash => "/usr/local/sbin:/usr/local/bin:/usr/sbin:/usr/bin:/sbin:/bin"
  | .bash => "/bin:/usr/bin"

/-- All that a name means, the first meaning first. -/
def meanings (s : State) (searchPath name : String) : List Meaning :=
  let aliases := match s.dialect with
    | .dash => s.aliases
    | .bash => if s.on "expand_aliases" then s.aliases else []
  let path := (s.found.lookup name).toList.map (Meaning.program ·.path true)
  let programs := if name.contains '/' then
      match s.dialect with
      | .dash => if s.files.exists? s.folder name then [Meaning.program name false] else []
      | .bash => (places s "" name).map (Meaning.program · false)
    else path ++ (places s searchPath name).map (Meaning.program · false)
  (if (Reading.keywords s.dialect).contains name then [Meaning.keyword] else []) ++
    (aliases.lookup name).toList.map Meaning.alias ++
    (if (s.functions.lookup name).isSome then [Meaning.function] else []) ++
    (if (names s.dialect).contains name then [Meaning.builtin] else []) ++ programs

/-- The meanings of a name that is asked for. The smaller shell remembers where it has found the
program of a name, and the larger one counts that it has been asked for a program that it knows. -/
def meaningsAsked (usual : Bool) (name : String) : Act (List Meaning) := do
  let s ← get
  let remember := fun (path : String) (runs : Nat) =>
    set { s with found := putPair name ⟨path, runs⟩ s.found }
  let all := meanings s (if usual then usualPath s.dialect else s.searchPath) name
  match s.dialect, all with
  | .dash, .program path false :: _ => if !name.contains '/' && !usual then remember path 0
  | .bash, .program path true :: _ =>
    remember path (((s.found.lookup name).map (·.runs)).getD 0 + 1)
  | _, _ => pure ()
  pure all

/-- A meaning in a few words that the shell could read again. -/
def Meaning.short (dialect : Dialect) (name : String) : Meaning → String
  | .alias text =>
    match dialect with
    | .dash => "alias " ++ name ++ "=" ++ quoted text
    | .bash => "alias " ++ name ++ "='" ++ text.replace "'" "'\\''" ++ "'"
  | .program path _ => path
  | _ => name

/-- A meaning in a sentence. -/
def Meaning.long (s : State) (name : String) : Meaning → String
  | .keyword => name ++ " is a shell keyword"
  | .alias text =>
    match s.dialect with
    | .dash => name ++ " is an alias for " ++ text
    | .bash => name ++ " is aliased to `" ++ text ++ "'"
  | .function =>
    match s.dialect with
    | .dash => name ++ " is a shell function"
    | .bash =>
      name ++ " is a function" ++
        ((s.functions.lookup name).elim "" fun f => "\n" ++ Layout.functionAt name f.written)
  | .builtin =>
    if (specials s.dialect).contains name && name ≠ "local" then
      name ++ " is a special shell builtin"
    else name ++ " is a shell builtin"
  | .program path known =>
    match s.dialect, known with
    | .dash, true => name ++ " is a tracked alias for " ++ path
    | .bash, true => name ++ " is hashed (" ++ path ++ ")"
    | _, false => name ++ " is " ++ path

/-- The kind of a meaning. -/
def Meaning.kind : Meaning → String
  | .keyword => "keyword"
  | .alias _ => "alias"
  | .function => "function"
  | .builtin => "builtin"
  | .program .. => "file"

/-- Tells what names mean. -/
def type (args : List String) : Act Unit := do
  let s ← get
  let (found, args) ← match s.dialect with
    | .dash => pure ([], args)
    | .bash => options "type" "afptP" args
  let known := fun (name : String) => do
    let all ← meaningsAsked false name
    let all := if has found 'f' then all.filter (·.kind ≠ "function") else all
    if has found 'P' then
      let all := (places s s.searchPath name).map (Meaning.program · false)
      pure (if has found 'a' then all else all.take 1)
    else if has found 'a' then
      pure (all.filter fun m => match m with
        | .program _ known => !known
        | _ => true)
    else pure (all.take 1)
  let render := fun (name : String) (m : Meaning) =>
    if has found 't' then [m.kind]
    else if has found 'p' || has found 'P' then
      match m with
      | .program path _ => [path]
      | _ => []
    else [m.long s name]
  let status ← args.foldlM (fun (status : Nat) name => do
    match ← known name with
    | [] =>
      match s.dialect with
      | .dash =>
        say "type" (unlines [name ++ ": not found"])
        pure 127
      | .bash =>
        if found.isEmpty || has found 'a' && !has found 't' && !has found 'p' then
          report "type" (name ++ ": not found")
        pure 1
    | all =>
      say "type" (unlines (all.flatMap (render name)))
      pure status) 0
  finish status

/-- Tells what a name means for `command`, in a few words or in a sentence. -/
def describe (usual : Bool) (args : List String) (long : Bool) : Act Unit := do
  let s ← get
  let one := fun (name : String) => do
    match ← meaningsAsked usual name with
    | [] =>
      match s.dialect with
      | .dash =>
        if long then say "command" (unlines [name ++ ": not found"])
        finish 127
      | .bash =>
        if long then report "command" (name ++ ": not found")
        finish 1
    | m :: _ => say "command" (unlines [if long then m.long s name
        else m.short s.dialect name])
  match args, s.dialect with
  | [], _ => finish 0
  | name :: _, .dash => one name
  | names, .bash =>
    let status ← names.foldlM (fun (status : Nat) name => do
      one name
      pure (if (← get).status = 0 then 0 else status)) 1
    finish status

/-- Looks up programs along the search path, or tells those that have been looked up. -/
def hash (args : List String) : Act Unit := do
  let s ← get
  let (found, args) ← options "hash" (if s.dialect = .dash then "r" else "dlp:rt") args
  if has found 'r' then modify fun s => { s with found := [] }
  let s ← get
  match args, s.dialect with
  | [], .dash =>
    let place := fun (name : String) =>
      let codes := name.toList.map Char.toNat
      ((codes.headD 0) * 16 + codes.foldl (· + ·) 0) % 31
    let known := s.found.mergeSort fun a b => place a.1 ≤ place b.1
    if has found 'r' then finish 0 else say "hash" (unlines (known.map (·.2.path)))
  | [], .bash =>
    if has found 'r' then finish 0
    else if s.found.isEmpty then
      say "hash" (unlines ["hash: hash table empty"])
    else
      say "hash" (unlines ("hits\tcommand" :: s.found.map fun (_, found) =>
        let runs := toString found.runs
        String.ofList (List.replicate (4 - runs.length) ' ') ++ runs ++ "\t" ++ found.path))
  | names, dialect =>
    finish 0
    forAll names fun name => do
      let s ← get
      if has found 'd' then
        set { s with found := s.found.filter (·.1 ≠ name) }
      else if has found 'p' then
        set { s with found := putPair name ⟨(found.lookup 'p').getD "", 0⟩ s.found }
      else if has found 't' then
        match s.found.lookup name with
        | some found => say "hash" (unlines [found.path])
        | none =>
          report "hash" (name ++ ": not found")
          finish 1
      else if !name.contains '/' && !(Builtin.names dialect).contains name then
        match places s s.searchPath name with
        | path :: _ => set { s with found := putPair name ⟨path, 0⟩ s.found }
        | [] =>
          report "hash" (name ++ ": not found")
          finish 1

/-- The aliases in the order in which they are listed. -/
def aliasOrder (s : State) : List (String × String) :=
  match s.dialect with
  | .dash => s.aliases.mergeSort fun a b => placeOf .dash a.1 ≤ placeOf .dash b.1
  | .bash => s.aliases.mergeSort fun a b => a.1 ≤ b.1

/-- The line that shows an alias. -/
def aliasLine (dialect : Dialect) (name text : String) : String :=
  match dialect with
  | .dash => name ++ "=" ++ quoted text
  | .bash => (Meaning.alias text).short .bash name

/-- Makes aliases, or tells them. -/
def nickname (args : List String) : Act Unit := do
  let s ← get
  let (_, args) ← match s.dialect with
    | .dash => pure ([], args)
    | .bash => options "alias" "p" args
  if args.isEmpty then
    say "alias" (unlines ((aliasOrder s).map fun (name, text) => aliasLine s.dialect name text))
  else
    finish 0
    forAll args fun arg => do
      let s ← get
      let status := s.status
      match assignment? arg with
      | some (name, text) =>
        if s.dialect = .bash && name.any fun c => Reading.isMeta c || c = '/' || c = '$' then
          report "alias" ("`" ++ name ++ "': invalid alias name")
          finish 1
        else set { s with aliases := putPair name text s.aliases }
      | none =>
        match s.aliases.lookup arg with
        | some text =>
          say "alias" (unlines [aliasLine s.dialect arg text])
          finish status
        | none =>
          match s.dialect with
          | .dash => warn ("alias: " ++ arg ++ " not found\n")
          | .bash => report "alias" (arg ++ ": not found")
          finish 1

/-- Takes aliases away. -/
def unalias (args : List String) : Act Unit := do
  let s ← get
  let (found, args) ← options "unalias" "a" args
  if has found 'a' then
    modify fun s => { s with aliases := [] }
    finish 0
  else
    if s.dialect = .bash && args.isEmpty then refuseUsage "unalias"
    finish 0
    forAll args fun arg => do
      let s ← get
      if (s.aliases.lookup arg).isSome then
        set { s with aliases := s.aliases.filter (·.1 ≠ arg) }
      else
        match s.dialect with
        | .dash => warn ("unalias: " ++ arg ++ " not found\n")
        | .bash => report "unalias" (arg ++ ": not found")
        finish 1

/-- Tells or changes the further options of the larger shell. -/
def shopt (args : List String) : Act Unit := do
  let (found, args) ← options "shopt" "pqsuo" args
  let s ← get
  let known := fun (name : String) =>
    if has found 'o' then true else (Switch.further.lookup name).isSome
  let line := fun (s : State) (name : String) =>
    let on := s.on name
    if has found 'p' then
      (if has found 'o' then "set " ++ (if on then "-o " else "+o ")
        else "shopt " ++ (if on then "-s " else "-u ")) ++ name
    else
      name ++ String.ofList (List.replicate (15 - name.length) ' ') ++ "\t" ++
        (if on then "on" else "off")
  if args.isEmpty then
    let all := (Switch.further.map (·.1)).filter fun name =>
      (!has found 's' || s.on name) && (!has found 'u' || !s.on name)
    say "shopt" (unlines (all.map (line s)))
  else
    let status ← args.foldlM (fun (status : Nat) name => do
      if !known name then
        report "shopt" (name ++ ": invalid shell option name")
        pure 1
      else if has found 's' || has found 'u' then
        modify fun s => s.switch name (has found 's')
        pure status
      else
        let s ← get
        if !has found 'q' then say "shopt" (unlines [line s name])
        pure (if s.on name then status else 1)) 0
    finish status

end RemoteAttach.Shell.Builtin
