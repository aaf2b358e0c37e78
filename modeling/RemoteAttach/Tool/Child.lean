import RemoteAttach.Tool.Launch

/-! Programs that run others again and again, each in a process of its own, and look at how those
have ended. -/

namespace RemoteAttach.Tool

open Shell Act

/-- How a process that was started has ended. -/
inductive ChildEnd where
  | exited (status : Nat)
  | killed (signal : Nat)
  | refused (error : FileError)

/-- Why the program of a name cannot be started, if it cannot. -/
def refusal? (s : State) (name : String) : Option FileError :=
  if name.isEmpty then some .notFound
  else
    match s.files.programNamed s.folder (searchPath s) name with
    | .ok _ | .error (_, .notExecutable) => none
    | .error (_, e) => some e

/-- Runs something in a process of its own. -/
def inChild (action : Act Unit) : Act ChildEnd := do
  let before ← get
  let mark := 1000
  isolated do
    match ← observe action with
    | .error (.killed signal) => finish (mark + signal)
    | outcome => let _ ← conclude outcome
  let status := (← get).status
  finish before.status
  pure (if mark ≤ status then .killed (status - mark) else .exited status)

/-- Runs a program in a process of its own. `prepare` is done there first. -/
def runChild (r : Runner) (prepare : Act Unit) (name : String) (args : List String) :
    Act ChildEnd := do
  match refusal? (← get) name with
  | some e => pure (.refused e)
  | none =>
    inChild do
      prepare
      let _ ← become r name args

/-- Becomes a shell that runs a command. -/
def becomeShell (r : Runner) (command : List Char) : Act Unit := do
  r.program (environment (← get)) ⟨"sh", "sh", []⟩ ["-c", String.ofList command]

namespace Xargs

/-- A piece of the input that becomes an argument, and the number of the line that it is from. -/
structure Item where
  text : String
  line : Nat

/-- What is known while the input is cut: the item that has begun, the last character first, the
quote that has begun, the number of the line, whether that has an item, and whether the last
character was a blank. -/
structure Cutting where
  done : List Item := []
  open? : Option (List Char) := none
  quote : Option Char := none
  line : Nat := 1
  filled : Bool := false
  blank : Bool := false

/-- Ends the item that has begun. -/
def Cutting.close (c : Cutting) : Cutting :=
  match c.open? with
  | some text =>
    { c with done := ⟨String.ofList text.reverse, c.line⟩ :: c.done, open? := none, filled := true }
  | none => c

/-- Adds a character to the item that has begun. -/
def Cutting.add (c : Cutting) (x : Char) : Cutting :=
  { c with open? := some (x :: c.open?.getD []), blank := false }

/-- A blank within a line. -/
def isBlank (c : Char) : Bool :=
  c = ' ' || c = '\t'

/-- Cuts the input at blanks, or only at line ends, and reads its quotes. The items come with
whether a quote was left open. -/
def cut (byLines : Bool) (escaped : Bool) (c : Cutting) : List Char → List Item × Option Char
  | [] => (c.close.done.reverse, c.quote)
  | x :: rest =>
    if escaped then cut byLines false (c.add x) rest
    else
      match c.quote with
      | some q =>
        if x = q then cut byLines false { c with quote := none } rest
        else if x = '\n' then (c.done.reverse, some q)
        else cut byLines false (c.add x) rest
      | none =>
        if x = '\\' then
          cut byLines true { c with open? := some (c.open?.getD []), blank := false } rest
        else if x = '\'' || x = '"' then
          cut byLines false { c with quote := some x, open? := some (c.open?.getD []) } rest
        else if x = '\n' then
          let c := c.close
          let ends := c.filled && !c.blank
          cut byLines false { c with
            line := if ends then c.line + 1 else c.line
            filled := if ends then false else c.filled
            blank := false } rest
        else if isBlank x && (!byLines || c.open?.isNone) then
          cut byLines false { c.close with blank := true } rest
        else cut byLines false (c.add x) rest

/-- The character that divides items. -/
def delimiter? (text : String) : Option Char :=
  match text.toList with
  | [c] => some c
  | ['\\', 'n'] => some '\n'
  | ['\\', 't'] => some '\t'
  | ['\\', '0'] => some '\x00'
  | ['\\', '\\'] => some '\\'
  | ['\\', 'r'] => some '\r'
  | '\\' :: 'x' :: digits => (Text.digitsAfter 16 0 digits).map Char.ofNat
  | _ => none

/-- A text with a mark replaced everywhere. -/
def withMark (mark value text : String) : String :=
  String.ofList (Text.replaceAll mark.toList value.toList text.toList)

/-- The first items that make up one call, and those that are left. -/
def batch (mostItems mostLines size : Nat) (items : List Item) : List Item × List Item :=
  let first := (items.head?.map (·.line)).getD 0
  let rec take (count room : Nat) : List Item → List Item × List Item
    | [] => ([], [])
    | item :: rest =>
      let cost := item.text.length + 1
      if count = mostItems || first + mostLines ≤ item.line || room < cost then
        ([], item :: rest)
      else
        let (taken, left) := take (count + 1) (room - cost) rest
        (item :: taken, left)
  take 0 size items

/-- What one call may take. Of the limits on items and lines and the mark that items replace, each
puts an end to the others. -/
structure Limits where
  items : Option Nat := none
  lines : Option Nat := none
  mark : Option String := none
  size : Nat := 131072

/-- A number that is the value of an option. -/
def numberOf (letter : Char) (least : Nat) (text : String) : Act Nat := do
  match text.toNat? with
  | none => misuse ("invalid number \"" ++ text ++ "\" for -" ++ letter.toString ++ " option")
  | some n =>
    if n < least then
      misuse ("value " ++ text ++ " for -" ++ letter.toString ++ " option should be >= " ++
        toString least)
    else pure n

/-- Warns that a limit puts an end to another one. -/
def displace (isSet : Bool) (old new : String) : Act Unit := do
  if isSet then
    complain ("warning: options " ++ old ++ " and " ++ new ++
      " are mutually exclusive, ignoring previous " ++ old ++ " value")

/-- The limits with what an option says. -/
def Limits.take (l : Limits) (option : Char × String) : Act Limits := do
  let (letter, text) := option
  match letter with
  | 'n' =>
    let n ← numberOf 'n' 1 text
    if n = 1 && l.mark.isSome then pure l
    else
      displace l.lines.isSome "--max-lines" "--max-args/-n"
      displace l.mark.isSome "--replace" "--max-args/-n"
      pure { l with items := some n, lines := none, mark := none }
  | 'L' | 'l' =>
    let n ← if letter = 'l' && text.isEmpty then pure 1 else numberOf letter 1 text
    let name := if letter = 'L' then "-L" else "--max-lines/-l"
    displace l.items.isSome "--max-args" name
    displace l.mark.isSome "--replace" name
    pure { l with items := none, lines := some n, mark := none }
  | 'I' | 'i' =>
    displace l.lines.isSome "--max-lines" "--replace/-I/-i"
    displace l.items.isSome "--max-args" "--replace/-I/-i"
    pure { l with
      items := none, lines := none, mark := some (if text.isEmpty then "\x7b\x7d" else text) }
  | 's' => pure { l with size := ← numberOf 's' 1 text }
  | 'P' =>
    let _ ← numberOf 'P' 0 text
    pure l
  | _ => pure l

/-- Runs a program with arguments that are read from the input. -/
def run (r : Runner) (args : List String) : Act Unit := do
  let (f, fault) ← optionsSoFar {
    letters := "0a:E:e::i::I:l::L:n:P:prs:txd:o", stops := true
    names := [("null", '0', .nothing), ("arg-file", 'a', .value), ("delimiter", 'd', .value),
      ("eof", 'e', .perhaps), ("replace", 'i', .perhaps), ("max-lines", 'l', .perhaps),
      ("max-args", 'n', .value), ("max-procs", 'P', .value), ("interactive", 'p', .nothing),
      ("no-run-if-empty", 'r', .nothing), ("max-chars", 's', .value), ("verbose", 't', .nothing),
      ("exit", 'x', .nothing), ("show-limits", 'S', .nothing), ("open-tty", 'o', .nothing)] } args
  let limits ← f.options.foldlM Limits.take {}
  match fault with
  | none => pure ()
  | some text => misuse text
  let divider ← match f.value? 'd', f.has '0' with
    | _, true => pure (some '\x00')
    | some text, _ =>
      match delimiter? text with
      | some c => pure (some c)
      | none =>
        fail ("Invalid input delimiter specification " ++ text ++
          ": the delimiter must be either a single character or an escape sequence starting " ++
          "with \\.")
    | none, _ => pure none
  let input ← match f.value? 'a' with
    | none => readAll 0
    | some file =>
      match ← content file with
      | .ok text => pure text
      | .error e => fail ("Cannot open input file " ++ inQuotes file ++ ": " ++ e.reason)
  let (items, quote) : List Item × Option Char := match divider with
    | some c =>
      let lines := Text.allLines input c
      (lines.zipIdx.map fun (text, n) => (⟨String.ofList text, n⟩ : Item), none)
    | none => cut limits.mark.isSome false {} input
  let ending := ((f.value? 'E').or (f.value? 'e')).filter (!·.isEmpty)
  let items := match ending, divider with
    | some word, none => items.takeWhile (·.text ≠ word)
    | _, _ => items
  let (name, fixed) : String × List String := match f.operands with
    | [] => ("echo", [])
    | name :: fixed => (name, fixed)
  match quote with
  | some q =>
    complain ("unmatched " ++ (if q = '\'' then "single" else "double") ++
      " quote; by default quotes are special to xargs unless you use the -0 option")
  | none => pure ()
  let call : String → List String → Act Unit := fun name args => do
    let words := String.intercalate " " ((name :: args).map shown)
    if f.has 'p' then
      warn words
      fail "failed to open /dev/tty for reading: No such device or address"
    if f.has 't' then warn (words ++ "\n")
    match ← runChild r (modify fun s => s.openStream 0 .sink) name args with
    | .exited 0 => pure ()
    | .exited 255 => fail (name ++ ": exited with status 255; aborting") 124
    | .exited _ => finish 123
    | .killed signal => fail (name ++ ": terminated by signal " ++ toString signal) 125
    | .refused e => fail (name ++ ": " ++ e.reason) (refusalStatus e)
  match limits.mark with
  | some mark =>
    forAll items fun item =>
      call (withMark mark item.text name) (fixed.map (withMark mark item.text))
  | none =>
    let before := ((name :: fixed).map fun (text : String) => text.length + 1).foldl (· + ·) 0
    let room := limits.size - before
    let isTooLong := fun (item : Item) => room ≤ item.text.length
    if items.isEmpty then
      if !f.has 'r' && quote.isNone then call name fixed
    else
      repeatWhile (fun (items : List Item) => do
        if items.isEmpty then pure none
        else
          let most := limits.items.getD 1000000
          let (here, rest) := batch most (limits.lines.getD 1000000) room items
          unless here.isEmpty do call name (fixed ++ here.map (·.text))
          if here.isEmpty || (here.length < most && rest.head?.any isTooLong) then
            fail "argument line too long"
          pure (some rest)) items
  if quote.isSome then finish 1
  if (f.value? 'a').isNone && (← isInputClosed) then
    deplore "error closing file: Bad file descriptor"

end Xargs

end RemoteAttach.Tool
