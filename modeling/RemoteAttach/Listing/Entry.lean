/-! Processes that a debugger can attach to, and the choice of one from a listing. -/

namespace RemoteAttach

/-- A process that a debugger can attach to. -/
structure ProcessEntry where
  id : UInt32
  /-- The last part of the path of its program. -/
  name : String
  commandLine : String
  /-- Its flags, which mean something on macOS alone. -/
  flags : UInt64
  deriving DecidableEq, Repr

namespace ProcessEntry

/-- The flag of a process whose code was made for another kind of processor. -/
def translatedFlag : UInt64 := 0x20000

/-- A process runs code made for another kind of processor if it carries the flag. -/
def isTranslated (p : ProcessEntry) : Bool :=
  p.flags &&& translatedFlag != 0

/-- The most processes that are taken from one listing. -/
def maxListed : Nat := 10000

end ProcessEntry

/-- How a process is chosen from a listing. -/
abbrev ProcessPicker := List ProcessEntry → Option ProcessEntry

/-- Chooses the first process of the given name. -/
def ProcessPicker.named (name : String) : ProcessPicker :=
  List.find? (·.name = name)

end RemoteAttach
