import RemoteAttach.Shell.Builtin.Options
import RemoteAttach.Shell.Condition

/-! The commands of a shell that write texts and decide conditions. -/

namespace RemoteAttach.Shell.Builtin

open Act

/-- A shell as one who formats. -/
def formatter : Dialect → Formatter
  | .dash => .dash
  | .bash => .bash

/-- Writes its arguments. -/
def echo (args : List String) : Act Unit := do
  let s ← get
  let who := formatter s.dialect
  let args := if s.on "xpg_echo" && args.head? ≠ some "-e" then "-e" :: args else args
  say "echo" (Format.echo who args)

/-- Writes its arguments in the form that the first one gives. -/
def printf (args : List String) : Act Unit := do
  let s ← get
  let (found, args) ← options "printf" (if s.dialect = .dash then "" else "v:") args
  match args with
  | [] =>
    match s.dialect with
    | .dash => refuse "printf" "usage: printf format [arg ...]"
    | .bash => refuseUsage "printf"
  | format :: args =>
    let (events, status) := Format.print (formatter s.dialect) format args
    forAll (Format.complaintsOf events) (report "printf")
    let text := Format.outputOf events
    match found.lookup 'v' with
    | some target =>
      let value := String.ofList text
      match Text.cutAt '[' target.toList with
      | some (name, key) =>
        assignItem (String.ofList name) (String.ofList (key.takeWhile (· ≠ ']'))) value false
      | none =>
        if !isName target then
          refuse "printf" ("`" ++ target ++ "': not a valid identifier") 2
        assign target value
      finish status
    | none => say "printf" text status

/-- Decides a condition. -/
def test (name : String) (args : List String) : Act Unit := do
  let s ← get
  match Condition.decide ⟨formatter s.dialect, s⟩ name args with
  | .ok value => finish (if value then 0 else 1)
  | .error text => refuse name text

end RemoteAttach.Shell.Builtin
