import RemoteAttach.Platform

/-! Pipe transports: how to reach the shell on the far side, with overrides for each platform, and
what is left of one once the platform is known. -/

namespace RemoteAttach

/-- The arguments of a pipe program. -/
inductive PipeArgs where
  /-- One fragment in shell form, which is never cut into words here. -/
  | line (fragment : String)
  /-- Arguments that are already separate words. -/
  | list (tokens : List String)
  deriving DecidableEq, Repr

/-- The section of a transport that replaces its program or arguments on one platform. -/
structure PipeOverride where
  program : Option String := none
  args : Option PipeArgs := none
  deriving DecidableEq, Repr

/-- How a debugger reaches the far side: the program that leads there with its arguments, working
directory and added environment, and where the debugger is found. -/
structure Transport where
  program : Option String := none
  args : Option PipeArgs := none
  /-- The working directory of the pipe program. -/
  cwd : Option String := none
  /-- What is added to the environment of the pipe program, by rising name. -/
  env : List (String × String) := []
  /-- Whether arguments with blanks may be quoted. -/
  quoteArgs : Option Bool := none
  /-- Where the debugger is found on the far side. -/
  debuggerPath : Option String := none
  windows : Option PipeOverride := none
  osx : Option PipeOverride := none
  linux : Option PipeOverride := none
  deriving DecidableEq, Repr

/-- The program and arguments in force on one platform. -/
structure ResolvedPipe where
  program : Option String := none
  args : Option PipeArgs := none
  deriving DecidableEq, Repr

namespace Transport

/-- The override section of a platform, if the platform is known and the section is there. -/
def overrideFor (t : Transport) : Option Platform → Option PipeOverride
  | none => none
  | some .windows => t.windows
  | some .osx => t.osx
  | some .linux => t.linux

/-- The program and arguments in force: each is the override's if it has one, and the transport's
own otherwise. An empty list in an override is one. -/
def resolveFor (t : Transport) (platform : Option Platform) : ResolvedPipe :=
  match t.overrideFor platform with
  | none => ⟨t.program, t.args⟩
  | some section_ => ⟨section_.program.or t.program, section_.args.or t.args⟩

/-- Quoting is allowed unless the transport forbids it. -/
def allowsQuotes (t : Transport) : Bool :=
  t.quoteArgs.getD true

end Transport

end RemoteAttach
