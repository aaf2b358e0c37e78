import RemoteAttach.ExitStatus
import RemoteAttach.Files.Tree

/-! The machine that commands run on: its files, the current folder, the environment, and how it
carries out a program. Starting a program there is refused, or ends with a status and what was
written, or does not end in time. What programs there are, and what they do, is left to the
machine. -/

namespace RemoteAttach

/-- What a program finds when it is started. -/
structure Surroundings where
  files : FileTree
  /-- The current folder. -/
  folder : Path := []
  environment : List (String × String) := []
  /-- The search path has been changed for what is run, so that it is looked for once more, and what
  names no interpreter is run as a script. -/
  looksAgain : Bool := false

/-- How a program ends, and the files that it leaves. -/
structure Ending where
  status : ExitStatus
  output : List UInt8
  errors : List UInt8
  files : FileTree

/-- Why a program gives no ending. -/
inductive Machine.Failure where
  /-- It could not be started. -/
  | refused (error : FileError)
  /-- It did not come to an end in time. -/
  | endless

/-- A machine: what programs find there, and what becomes of a program with a name, arguments and
input that may take so many milliseconds at most. -/
structure Machine extends Surroundings where
  start : Surroundings → String → List String → List UInt8 → Option Nat →
    Except Machine.Failure Ending

/-- An association with a pair in the place of the one with the same name, or behind the others. -/
def putPair {α : Type} (name : String) (value : α) : List (String × α) → List (String × α)
  | [] => [(name, value)]
  | (other, old) :: rest =>
    if other = name then (name, value) :: rest else (other, old) :: putPair name value rest

namespace Machine

/-- The machine after a change of folder, which is refused if the text leads to none. -/
def enter (m : Machine) (text : String) : Except FileError Machine := do
  let path ← m.files.resolve m.folder text
  match m.files.lookup path with
  | some (.folder _) => .ok { m with folder := path }
  | some _ => .error .notDirectory
  | none => .error .notFound

/-- The machine with some variables set in its environment. -/
def withVariables (m : Machine) (settings : List (String × String)) : Machine :=
  { m with
    environment :=
      settings.foldl (fun all (name, value) => putPair name value all) m.environment
    looksAgain := m.looksAgain || settings.any (·.1 = "PATH") }

/-- The value of a variable. -/
def value? (m : Machine) (name : String) : Option String :=
  (m.environment.find? (·.1 = name)).map (·.2)

/-- The folder of the user, which is the current one if none is set. -/
def home (m : Machine) : String :=
  match m.value? "HOME" with
  | none | some "" => "."
  | some home => home

/-- Runs a program with its arguments and input, for so many milliseconds at most. No argument may
hold a zero character. -/
def run (m : Machine) (name : String) (args : List String) (input : List UInt8)
    (limit : Option Nat := none) : Except Failure Ending :=
  if (name :: args).any (·.contains '\x00') then .error (.refused .zeroByte)
  else m.start m.toSurroundings name args input limit

end Machine

end RemoteAttach
