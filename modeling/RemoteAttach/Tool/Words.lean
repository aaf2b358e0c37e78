import RemoteAttach.Tool.Basic

/-! Programs that write their arguments or a part of them: texts, the names in paths, variables, and
the decision of a condition. -/

namespace RemoteAttach.Tool

open Shell Act

/-- Writes its arguments. -/
def echo (args : List String) : Act Unit :=
  write (Format.echo .tool args)

/-- Writes its arguments in the form that the first one gives. -/
def printf (args : List String) : Act Unit := do
  let args := if args.head? = some "--" then args.drop 1 else args
  match args with
  | [] => misuse "missing operand"
  | format :: args =>
    let (events, status) := Format.print .tool format args
    finish status
    forAll (Format.complaintsOf events) complain
    write (Format.outputOf events)

/-- Decides a condition. -/
def test (name : String) (args : List String) : Act Unit := do
  let s ← get
  match Condition.decide ⟨.tool, s⟩ name args with
  | .ok value => finish (if value then 0 else 1)
  | .error text => fail text 2

/-- The text of a path without the solidi at its end. -/
def trimmedPath (path : List Char) : List Char :=
  (path.reverse.dropWhile (· = '/')).reverse

/-- The last name of a path. -/
def lastName (path : String) : String :=
  let chars := trimmedPath path.toList
  if chars.isEmpty then (if path.isEmpty then "" else "/")
  else String.ofList (chars.reverse.takeWhile (· ≠ '/')).reverse

/-- A path without its last name. -/
def folderName (path : String) : String :=
  let chars := trimmedPath path.toList
  let before := trimmedPath (chars.reverse.dropWhile (· ≠ '/')).reverse
  if !before.isEmpty then String.ofList before
  else if path.startsWith "/" then "/" else "."

/-- Writes texts, each with its mark. -/
def writeMarked (zero : Bool) (texts : List String) : Act Unit :=
  write (texts.flatMap fun text => text.toList ++ [if zero then '\x00' else '\n'])

/-- Writes the last names of paths. -/
def basename (args : List String) : Act Unit := do
  let f ← options {
    letters := "as:z", stops := true
    names := [("multiple", 'a', .nothing), ("suffix", 's', .value), ("zero", 'z', .nothing)] } args
  let without := fun (ending path : String) =>
    let name := lastName path
    if name.endsWith ending && name ≠ ending then
      String.ofList (name.toList.take (name.length - ending.length))
    else name
  match f.operands, f.has 'a' || f.has 's' with
  | [], _ => misuse "missing operand"
  | paths, true => writeMarked (f.has 'z') (paths.map (without ((f.value? 's').getD "")))
  | [path], false => writeMarked (f.has 'z') [lastName path]
  | [path, ending], false => writeMarked (f.has 'z') [without ending path]
  | _ :: _ :: extra :: _, false => misuse ("extra operand " ++ cited extra)

/-- Writes paths without their last names. -/
def dirname (args : List String) : Act Unit := do
  let f ← options { letters := "z", names := [("zero", 'z', .nothing)] } args
  if f.operands.isEmpty then misuse "missing operand"
  writeMarked (f.has 'z') (f.operands.map folderName)

/-- Writes the folder that the process is in. -/
def pwd (args : List String) : Act Unit := do
  let f ← options {
    letters := "LP", names := [("logical", 'L', .nothing), ("physical", 'P', .nothing)] } args
  if !f.operands.isEmpty then complain "ignoring non-option arguments"
  let s ← get
  let real := if s.folder.isEmpty then "/" else s.folder.text
  let told := (s.text? "PWD").filter fun text =>
    text.startsWith "/" && (s.files.resolve [] text).toOption == some s.folder
  writeLines [if f.last? ['L', 'P'] = some 'L' then told.getD real else real]

/-- Writes variables of the environment. -/
def printenv (args : List String) : Act Unit := do
  let f ← options { letters := "0", stops := true, names := [("null", '0', .nothing)] } args 2
  let s ← get
  match f.operands with
  | [] => writeMarked (f.has '0') (s.environment.map fun (name, value) => name ++ "=" ++ value)
  | names =>
    let found := names.filterMap s.text?
    finish (if found.length < names.length then 1 else 0)
    writeMarked (f.has '0') found

end RemoteAttach.Tool
