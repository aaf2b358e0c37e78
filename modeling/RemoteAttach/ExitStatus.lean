/-! How a program ends: with a status of its own, or by a signal. -/

namespace RemoteAttach

/-- How a program has ended. -/
inductive ExitStatus where
  | exited (status : Nat)
  | killed (signal : Nat)
  deriving DecidableEq, Repr

/-- The names of the signals by rising numbers, from 1 on. -/
def signalNames : List String :=
  ["HUP", "INT", "QUIT", "ILL", "TRAP", "ABRT", "BUS", "FPE", "KILL", "USR1", "SEGV", "USR2",
    "PIPE", "ALRM", "TERM", "STKFLT", "CHLD", "CONT", "STOP", "TSTP", "TTIN", "TTOU", "URG",
    "XCPU", "XFSZ", "VTALRM", "PROF", "WINCH", "IO", "PWR", "SYS"]

/-- The name of a signal, empty if it has none. -/
def signalName (signal : Nat) : String :=
  if signal = 0 then "" else signalNames.getD (signal - 1) ""

namespace ExitStatus

/-- The program has ended well. -/
def isSuccess : ExitStatus → Bool
  | exited status => status = 0
  | killed _ => false

/-- The end in words. A signal without a name is told by its number alone. -/
def message : ExitStatus → String
  | exited status => "exit status: " ++ toString status
  | killed signal =>
    let name := signalName signal
    "signal: " ++ toString signal ++ (if name.isEmpty then "" else " (SIG" ++ name ++ ")")

/-- The number by which the system tells an end: a status stands in its second byte, and a signal in
its first one. -/
def code : ExitStatus → Nat
  | exited status => status * 256
  | killed signal => signal

end ExitStatus

end RemoteAttach
