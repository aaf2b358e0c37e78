/-! The options of the command line. An option with a value takes the argument after it, whatever
that is; of an option that is given again, and of the path, the last one counts. -/

namespace RemoteAttach.CommandLine

/-- What the arguments ask for. -/
structure Options where
  /-- The launch file. -/
  path : Option String := none
  /-- The configuration that is wanted. -/
  name : Option String := none
  /-- The tag of the platform that is connected to. -/
  os : Option String := none
  /-- Arguments with blanks are never quoted. -/
  noQuote : Bool := false
  /-- The processes are listed. -/
  list : Bool := false
  /-- The process that the configuration is resolved for. -/
  pick : Option String := none
  /-- The development certificate is checked. -/
  checkDevCerts : Bool := false
  deriving DecidableEq, Repr

/-- Why arguments are refused. -/
inductive OptionError where
  | unknown (option : String)
  | missingValue (option : String)
  deriving DecidableEq, Repr

/-- The words for an error. -/
def OptionError.message : OptionError → String
  | unknown option => "Unknown option: " ++ option
  | missingValue option => option ++ " requires a value"

namespace Options

/-- Takes an option that has a value, if the text is one. -/
def setValue? (o : Options) (option value : String) : Option Options :=
  match option with
  | "--name" => some { o with name := some value }
  | "--os" => some { o with os := some value }
  | "--pick" => some { o with pick := some value }
  | _ => none

/-- Takes an option that has no value, if the text is one. -/
def setSwitch? (o : Options) (option : String) : Option Options :=
  match option with
  | "--no-quote" => some { o with noQuote := true }
  | "--list" => some { o with list := true }
  | "--check-dev-certs" => some { o with checkDevCerts := true }
  | _ => none

/-- Takes arguments after others. -/
def take (o : Options) : List String → Except OptionError Options
  | [] => .ok o
  | [arg] =>
    if (o.setValue? arg "").isSome then .error (.missingValue arg)
    else
      match o.setSwitch? arg with
      | some o => .ok o
      | none =>
        if arg.startsWith "-" then .error (.unknown arg) else .ok { o with path := some arg }
  | arg :: next :: rest =>
    match o.setValue? arg next with
    | some o => o.take rest
    | none =>
      match o.setSwitch? arg with
      | some o => o.take (next :: rest)
      | none =>
        if arg.startsWith "-" then .error (.unknown arg)
        else { o with path := some arg }.take (next :: rest)

/-- What some arguments ask for. -/
def ofArgs (args : List String) : Except OptionError Options :=
  take {} args

end Options

end RemoteAttach.CommandLine
