import RemoteAttach.Text.Numeral

/-! Settings of the log: how much is written, how long log files stay, and whether there is a log
at all. -/

namespace RemoteAttach

/-- How much is written to the log. -/
inductive LogLevel where
  | trace
  | debug
  | info
  | warn
  | error
  | off
  deriving DecidableEq, Repr

namespace LogLevel

/-- The level that a text names in any letter case; a text that names none stands for `info`.
Lowering ASCII letters decides this for every text, because no other letter has one of the letters
of these names as its lower-case form. -/
def ofText (text : String) : LogLevel :=
  match text.toLower with
  | "trace" => trace
  | "debug" => debug
  | "info" => info
  | "warn" | "warning" => warn
  | "error" => error
  | "off" | "none" | "disabled" => off
  | _ => info

end LogLevel

/-- The hours that log files stay if nothing else is set. -/
def defaultRetention : UInt32 := 24

/-- The hours that a text gives, or the default if it is no numeral of a 32-bit word. -/
def retentionOfText (text : String) : UInt32 :=
  (Text.word32? text.toList).getD defaultRetention

/-- The settings of the log. -/
structure LogSettings where
  /-- The hours that log files stay. -/
  retention : UInt32 := defaultRetention
  level : LogLevel := .info
  enabled : Bool := true
  deriving DecidableEq, Repr

end RemoteAttach
