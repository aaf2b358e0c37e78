import RemoteAttach.Text.Blank
import RemoteAttach.Text.Split
import RemoteAttach.Transport

/-! The command line that leads through a pipe: the pipe program, its arguments, and the command
to be run on the far side, which stands where the arguments mark its place or else at the end. -/

namespace RemoteAttach

/-- The text that marks the place of the debugger command in the arguments. -/
def debuggerPlaceholder : String := "$\x7bdebuggerCommand\x7d"

/-- The debugger command of a fresh installation: a shell that reads its script from its input. -/
def defaultDebuggerCommand : String := "sh -s"

namespace PipeCommand

/-- An argument is wrapped if a double quote stands at each of its two ends. -/
def isWrapped (arg : String) : Bool :=
  2 ≤ arg.toList.length && arg.toList.head? == some '"' && arg.toList.getLast? == some '"'

/-- The argument between double quotes if quoting is on and it has a blank and is not wrapped yet.
Quotes inside it are left as they are. -/
def quoteArg (arg : String) (quote : Bool) : String :=
  if quote && arg.toList.any Text.isBlank && !isWrapped arg then "\"" ++ arg ++ "\"" else arg

/-- A fragment with every placeholder replaced by the command, or with the command after it if it
has none. -/
def fillFragment (fragment command : String) : String :=
  let pieces := Text.pieces debuggerPlaceholder.toList fragment.toList
  if pieces.length = 1 then fragment ++ " " ++ command
  else String.ofList (List.intercalate command.toList pieces)

/-- The command line of a program and a fragment, which is quoted as a whole or not at all. -/
def ofLine (program fragment : String) (quote : Bool) (command : String) : String :=
  let filled := fillFragment fragment command
  if quote then program ++ " \"" ++ filled ++ "\"" else program ++ " " ++ filled

/-- The tokens with each placeholder replaced by the command, and the others quoted one by one. The
command follows them if none is a placeholder; it is never quoted. -/
def fillTokens (tokens : List String) (quote : Bool) (command : String) : List String :=
  let filled := tokens.map fun arg =>
    if arg = debuggerPlaceholder then command else quoteArg arg quote
  if debuggerPlaceholder ∈ tokens then filled else filled ++ [command]

/-- The command line of a program and separate arguments. -/
def ofList (program : String) (tokens : List String) (quote : Bool) (command : String) : String :=
  program ++ " " ++ String.intercalate " " (fillTokens tokens quote command)

/-- The command line of a program with arguments of either form. -/
def ofArgs (program : String) (args : PipeArgs) (quote : Bool) (command : String) : String :=
  match args with
  | .line fragment => ofLine program fragment quote command
  | .list tokens => ofList program tokens quote command

/-- What is the same for all pipes: the command to be run on the far side and whether quoting is
wanted. -/
structure Builder where
  command : String := defaultDebuggerCommand
  quote : Bool := true
  deriving DecidableEq, Repr

namespace Builder

/-- The command line of a resolved pipe, if it has a program. Absent arguments are an empty
list. -/
def build (b : Builder) (pipe : ResolvedPipe) : Option String :=
  pipe.program.map fun program => ofArgs program (pipe.args.getD (.list [])) b.quote b.command

/-- The command line of a transport on a platform. Arguments are quoted only if both the builder
wants it and the transport allows it. -/
def buildFor (b : Builder) (t : Transport) (platform : Option Platform) : Option String :=
  { b with quote := b.quote && t.allowsQuotes }.build (t.resolveFor platform)

end Builder

end PipeCommand

end RemoteAttach
