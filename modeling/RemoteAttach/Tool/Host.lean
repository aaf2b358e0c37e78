import RemoteAttach.Calendar
import RemoteAttach.Shell.Builtin.Name
import RemoteAttach.Shell.Job
import RemoteAttach.Tool.Words

/-! Programs that tell about the system that they run on: its name, its users, its clock, and where
its programs are. One of them only lets time pass. -/

namespace RemoteAttach.Tool

open Shell Act

/-- Refuses operands of a program that takes none. -/
def noOperands (f : Found) (status : Nat := 1) : Act Unit :=
  match f.operands with
  | [] => pure ()
  | extra :: _ => misuse ("extra operand " ++ cited extra) status

/-- The facts about the system that have a letter. -/
def systemFacts : List (Char × String) :=
  [('s', "Linux"), ('n', "localhost"), ('r', "6.1.0"), ('v', "#1 SMP"), ('m', "x86_64"),
    ('p', "x86_64"), ('i', "x86_64"), ('o', "GNU/Linux")]

/-- Writes the name of the system, or other facts about it. -/
def uname (args : List String) : Act Unit := do
  let f ← options {
    letters := "asnrvmpio"
    names := [("all", 'a', .nothing), ("kernel-name", 's', .nothing), ("sysname", 's', .nothing),
      ("nodename", 'n', .nothing), ("kernel-release", 'r', .nothing), ("release", 'r', .nothing),
      ("kernel-version", 'v', .nothing), ("machine", 'm', .nothing), ("processor", 'p', .nothing),
      ("hardware-platform", 'i', .nothing), ("operating-system", 'o', .nothing)] } args
  noOperands f
  let wanted := fun (c : Char) =>
    if f.options.isEmpty then c = 's' else f.has c || f.has 'a'
  writeLines [String.intercalate " " ((systemFacts.filter fun (c, _) => wanted c).map (·.2))]

/-- Writes the name of the machine. -/
def hostname (_args : List String) : Act Unit :=
  writeLines ["localhost"]

/-- Writes a fact that depends on nothing. -/
def tell (text : String) (args : List String) : Act Unit := do
  let f ← options { letters := "" } args
  noOperands f
  writeLines [text]

/-- Writes the number of processors. -/
def nproc (args : List String) : Act Unit := do
  let f ← options {
    letters := "", names := [("all", 'a', .nothing), ("ignore", 'i', .value)] } args
  noOperands f
  writeLines ["4"]

/-- Tells that the input is no terminal. -/
def tty (args : List String) : Act Unit := do
  let f ← options {
    letters := "s", names := [("silent", 's', .nothing), ("quiet", 's', .nothing)] } args 2
  noOperands f 2
  finish 1
  if !f.has 's' then writeLines ["not a tty"]

/-- The users that are known, with their numbers and the name of their group. -/
def users : List (String × Nat × String) :=
  [("root", 0, "root"), ("daemon", 1, "daemon"), ("bin", 2, "bin"), ("sys", 3, "sys"),
    ("nobody", 65534, "nogroup")]

/-- The user of a name or a number. -/
def user? (text : String) : Option (String × Nat × String) :=
  users.find? fun (name, number, _) => name = text || toString number = text

/-- Writes the numbers and the names of users. -/
def userIds (args : List String) : Act Unit := do
  let f ← options {
    letters := "agnruGzZ"
    names := [("group", 'g', .nothing), ("name", 'n', .nothing), ("real", 'r', .nothing),
      ("user", 'u', .nothing), ("groups", 'G', .nothing), ("zero", 'z', .nothing)] } args
  let kinds := ['u', 'g', 'G'].filter f.has
  if 1 < kinds.length then fail "cannot print \"only\" of more than one choice"
  if kinds.isEmpty && (f.has 'n' || f.has 'r') then
    fail "cannot print only names or real IDs in default format"
  if kinds.isEmpty && f.has 'z' then fail "option --zero not permitted in default format"
  forAll (if f.operands.isEmpty then ["root"] else f.operands) fun text => do
    match user? text with
    | none => deplore (inQuotes text ++ ": no such user")
    | some (name, number, group) =>
      let shown := fun (title : String) => if f.has 'n' then title else toString number
      writeMarked (f.has 'z') [match kinds with
        | ['u'] => shown name
        | _ :: _ => shown group
        | [] =>
          let n := toString number
          "uid=" ++ n ++ "(" ++ name ++ ") gid=" ++ n ++ "(" ++ group ++ ") groups=" ++ n ++
            "(" ++ group ++ ")"]

/-- Writes the groups of users. -/
def groups (args : List String) : Act Unit := do
  let f ← options { letters := "" } args
  if f.operands.isEmpty then writeLines ["root"]
  forAll f.operands fun text => do
    match user? text with
    | none => deplore (inQuotes text ++ ": no such user")
    | some (_, _, group) => writeLines [text ++ " : " ++ group]

/-- Writes the places of programs. -/
def which (args : List String) : Act Unit := do
  let s ← get
  let (found, names) := args.span fun arg => arg.startsWith "-" && arg.length ≠ 1
  let letters := found.flatMap fun arg => arg.toList.drop 1
  match letters.find? fun c => c ≠ 'a' && c ≠ 's' with
  | some c =>
    warn ("Illegal option -" ++ c.toString ++ "\nUsage: " ++
      (Builtin.places s s.searchPath s.name).headD "/usr/bin/which" ++ " [-as] args\n")
    finish 2
  | none =>
    let missing ← names.mapM fun name => do
      let all := Builtin.places s s.searchPath name
      if !letters.contains 's' then writeLines (if letters.contains 'a' then all else all.take 1)
      pure all.isEmpty
    finish (if names.isEmpty || missing.contains true then 1 else 0)

/-- The milliseconds that a text with a unit stands for. -/
def interval? (text : String) : Option Nat :=
  let chars := text.toList
  if chars.isEmpty then none
  else
    let (quantity, used) := Decimal.Quantity.read chars
    let factor : Option Nat := match chars.drop used with
      | [] | ['s'] => some 1000
      | ['m'] => some 60000
      | ['h'] => some 3600000
      | ['d'] => some 86400000
      | _ => none
    if used = 0 || quantity.isNegative then none
    else
      match quantity with
      | .ratio _ num den => factor.map fun factor => (num * factor + den - 1) / den
      | .infinite _ => some 1000000000000
      | .undefined _ => none

/-- Writes a date. -/
def date (args : List String) : Act Unit := do
  let f ← options {
    letters := "d:uRI::r:s:"
    names := [("date", 'd', .value), ("utc", 'u', .nothing), ("universal", 'u', .nothing),
      ("rfc-email", 'R', .nothing), ("iso-8601", 'I', .perhaps), ("reference", 'r', .value),
      ("set", 's', .value)] } args
  let s ← get
  let moment ← match f.value? 'd', f.value? 'r' with
    | some text, _ =>
      match Calendar.read s.now text with
      | some t => pure t
      | none => fail ("invalid date " ++ cited text)
    | none, some file =>
      match s.facts file with
      | .ok facts => pure (s.now - Int.fdiv facts.age Entry.perSecond)
      | .error e => fail (shown file ++ ": " ++ e.reason)
    | none, none => pure s.now
  let usual := if f.has 'R' then "%a, %d %b %Y %H:%M:%S %z"
    else
      match f.value? 'I' with
      | some "seconds" => "%Y-%m-%dT%H:%M:%S%:z"
      | some "minutes" => "%Y-%m-%dT%H:%M%:z"
      | some "hours" => "%Y-%m-%dT%H%:z"
      | some _ => "%Y-%m-%d"
      | none => "%a %b %e %H:%M:%S %Z %Y"
  match f.operands with
  | [] => writeLines [Calendar.format moment usual]
  | [form] =>
    if form.startsWith "+" then
      writeLines [Calendar.format moment (String.ofList (form.toList.drop 1))]
    else fail ("invalid date " ++ cited form)
  | _ :: extra :: _ => misuse ("extra operand " ++ cited extra)

/-- Lets time pass. What runs in the background goes on. -/
def sleepFor (r : Runner) (duration : Nat) : Act Unit := do
  let target := (← get).clock + duration
  Job.runUntil r target
  let limit := (← get).deadline
  match limit with
  | some limit =>
    if limit < target then
      modify fun s => { s with clock := max s.clock limit }
      throw .late
  | none => pure ()
  modify fun s => { s with clock := max s.clock target }

/-- Lets some time pass. -/
def sleep (r : Runner) (args : List String) : Act Unit := do
  let f ← options { letters := "" } args
  if f.operands.isEmpty then misuse "missing operand"
  let parts ← f.operands.mapM fun text => do
    match interval? text with
    | some duration => pure (some duration)
    | none =>
      complain ("invalid time interval " ++ cited text)
      pure none
  if parts.contains none then hint
  sleepFor r ((parts.map fun part => part.getD 0).foldl (· + ·) 0)

end RemoteAttach.Tool
