import RemoteAttach.Shell.Variables

/-! What the commands of a shell have in common: how they read their options, complain and write.
A complaint names the command; the larger shell also tells how it is called. -/

namespace RemoteAttach.Shell.Builtin

open Act

/-- Complains in a command of the shell. -/
def report (name text : String) : Act Unit := do
  match (← get).dialect with
  | .dash => complain text
  | .bash => complainOf name text

/-- Complains and gives the command up. -/
def refuse {α : Type} (name text : String) (status : Nat := 2) : Act α := do
  report name text
  finish status
  throw .failure

/-- How the larger shell's commands are called. -/
def usages : List (String × String) :=
  [(".", ". filename [arguments]"),
    ("source", "source filename [arguments]"),
    ("alias", "alias [-p] [name[=value] ... ]"),
    ("builtin", "builtin [shell-builtin [arg ...]]"),
    ("cd", "cd [-L|[-P [-e]] [-@]] [dir]"),
    ("command", "command [-pVv] command [arg ...]"),
    ("declare", "declare [-aAfFgiIlnrtux] [name[=value] ...] or declare -p [-aAfFilnrtux] " ++
      "[name ...]"),
    ("dirs", "dirs [-clpv] [+N] [-N]"),
    ("exec", "exec [-cl] [-a name] [command [argument ...]] [redirection ...]"),
    ("export", "export [-fn] [name[=value] ...] or export -p"),
    ("getopts", "getopts optstring name [arg ...]"),
    ("hash", "hash [-lr] [-p pathname] [-dt] [name ...]"),
    ("jobs", "jobs [-lnprs] [jobspec ...] or jobs -x command [args]"),
    ("kill", "kill [-s sigspec | -n signum | -sigspec] pid | jobspec ... or kill -l [sigspec]"),
    ("let", "let arg [arg ...]"),
    ("local", "local [option] name[=value] ..."),
    ("mapfile", "mapfile [-d delim] [-n count] [-O origin] [-s count] [-t] [-u fd] " ++
      "[-C callback] [-c quantum] [array]"),
    ("popd", "popd [-n] [+N | -N]"),
    ("printf", "printf [-v var] format [arguments]"),
    ("pushd", "pushd [-n] [+N | -N | dir]"),
    ("pwd", "pwd [-LP]"),
    ("read", "read [-ers] [-a array] [-d delim] [-i text] [-n nchars] [-N nchars] [-p prompt] " ++
      "[-t timeout] [-u fd] [name ...]"),
    ("readarray", "readarray [-d delim] [-n count] [-O origin] [-s count] [-t] [-u fd] " ++
      "[-C callback] [-c quantum] [array]"),
    ("readonly", "readonly [-aAf] [name[=value] ...] or readonly -p"),
    ("set", "set [-abefhkmnptuvxBCEHPT] [-o option-name] [--] [-] [arg ...]"),
    ("shopt", "shopt [-pqsu] [-o] [optname ...]"),
    ("times", "times"),
    ("trap", "trap [-lp] [[arg] signal_spec ...]"),
    ("type", "type [-afptP] name [name ...]"),
    ("typeset", "typeset [-aAfFgiIlnrtux] name[=value] ... or typeset -p [-aAfFilnrtux] " ++
      "[name ...]"),
    ("ulimit", "ulimit [-SHabcdefiklmnpqrstuvxPRT] [limit]"),
    ("umask", "umask [-p] [-S] [mode]"),
    ("unalias", "unalias [-a] name [name ...]"),
    ("unset", "unset [-f] [-v] [-n] [name ...]"),
    ("wait", "wait [-fn] [-p var] [id ...]")]

/-- Gives a command up that is called in the wrong way. -/
def refuseUsage {α : Type} (name : String) : Act α := do
  if (← get).dialect = .bash then
    warn (name ++ ": usage: " ++ ((usages.lookup name).getD name) ++ "\n")
  finish 2
  throw .failure

/-- Gives a command up because of an option. -/
def refuseOption {α : Type} (name : String) (letter : Char) : Act α := do
  match (← get).dialect with
  | .dash => refuse name ("Illegal option -" ++ letter.toString)
  | .bash =>
    report name ("-" ++ letter.toString ++ ": invalid option")
    refuseUsage name

/-- The options at the start of some arguments, each with its value, and the arguments after them.
In `letters` a colon follows each option that has a value. -/
def optionsFrom (name : String) (letters : List Char) :
    Nat → List String → Act (List (Char × String) × List String)
  | 0, args => pure ([], args)
  | _, [] => pure ([], [])
  | fuel + 1, arg :: rest =>
    match arg.toList with
    | ['-', '-'] => pure ([], rest)
    | '-' :: c :: more => do
      if c = ':' || !letters.contains c then refuseOption name c
      else if ((letters.dropWhile (· ≠ c)).drop 1).head? = some ':' then
        match more, rest with
        | _ :: _, _ =>
          let (found, args) ← optionsFrom name letters fuel rest
          pure ((c, String.ofList more) :: found, args)
        | [], value :: rest =>
          let (found, args) ← optionsFrom name letters fuel rest
          pure ((c, value) :: found, args)
        | [], [] =>
          match (← get).dialect with
          | .dash => refuse name ("No arg for -" ++ c.toString ++ " option")
          | .bash =>
            report name ("-" ++ c.toString ++ ": option requires an argument")
            refuseUsage name
      else
        let rest := if more.isEmpty then rest else String.ofList ('-' :: more) :: rest
        let (found, args) ← optionsFrom name letters fuel rest
        pure ((c, "") :: found, args)
    | _ => pure ([], arg :: rest)

/-- The options of a command, each with its value, and its other arguments. -/
def options (name letters : String) (args : List String) :
    Act (List (Char × String) × List String) :=
  optionsFrom name letters.toList ((args.map (·.length + 1)).foldl (· + ·) 1) args

/-- The options have a letter. -/
def has (found : List (Char × String)) (letter : Char) : Bool :=
  found.any (·.1 = letter)

/-- Writes the output of a command of the shell, and gives its status. -/
def say (name : String) (text : List Char) (status : Nat := 0) : Act Unit := do
  let s ← get
  let (after, ending) := s.write 1 text
  match ending with
  | .done =>
    set after
    finish status
  | .full =>
    set after
    throw (.killed 13)
  | .closed =>
    if text.isEmpty then finish status
    else
      match s.dialect with
      | .dash => complain (name ++ ": I/O error")
      | .bash => complainOf name "write error: Bad file descriptor"
      finish 1

/-- A text between single quotes, as the smaller shell writes values. -/
def quoted (text : String) : String :=
  if text.isEmpty then "''"
  else
    String.join ((text.toList.splitBy fun a b => (a = '\'') = (b = '\'')).zipIdx.flatMap
      fun (piece, i) =>
        let piece := String.ofList piece
        if !piece.startsWith "'" then ["'" ++ piece ++ "'"]
        else [if i = 0 then "''" else "", "\"" ++ piece ++ "\""])

/-- The name and value of an assignment. -/
def assignment? (text : String) : Option (String × String) :=
  (Text.cutAt '=' text.toList).map fun (name, value) => (String.ofList name, String.ofList value)

/-- The lines of a text, each with its end. -/
def unlines (lines : List String) : List Char :=
  lines.flatMap fun line => line.toList ++ ['\n']

end RemoteAttach.Shell.Builtin
