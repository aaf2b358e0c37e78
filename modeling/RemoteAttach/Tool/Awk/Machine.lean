import RemoteAttach.Tool.Awk.Reader
import RemoteAttach.Tool.Awk.Table
import RemoteAttach.Tool.Awk.Value
import RemoteAttach.Tool.Child

/-! What a program of the pattern language works on: variables and tables, the record and its
fields, the input, and the files and commands that it reads from and writes to. -/

namespace RemoteAttach.Tool.Awk

open Shell Act

/-- A place that output goes to besides the output of the process. -/
structure Outlet where
  name : String
  /-- The stream of a file; a command has none. -/
  stream : Option Nat
  /-- The pieces that have not been written, the last one first. -/
  pieces : List (List Char) := []

/-- The variables and tables that belong to a call of a function. -/
structure Frame where
  values : List (String × Value) := []
  tables : List (String × Nat) := []

/-- The state of a program. -/
structure Machine where
  functions : List Function
  /-- The parameters of functions that are tables. -/
  tableParams : List (String × List Bool)
  vars : Std.HashMap String Value := {}
  tables : Array (Table Value) := #[]
  globalTables : Std.HashMap String Nat := {}
  frame : Frame := {}
  record : List Char := []
  /-- The fields have changed since the record was put together. -/
  stale : Bool := false
  fields : Array Value := #[]
  /-- What is left of the file that is read, if one is open. -/
  input : Option (List Char) := none
  /-- The index of the next argument that may name a file. -/
  nextArg : Nat := 1
  /-- Some argument has named a file. -/
  usedFile : Bool := false
  sources : List (String × Nat × List Char) := []
  outlets : List Outlet := []
  output : List (List Char) := []
  outputSize : Nat := 0
  active : List Nat := []
  compiled : Std.HashMap String Regex := {}
  status : Nat := 0
  seed : Float := 0
  /-- The latest random words. -/
  random : List UInt32 := []

/-- Why an action is left. -/
inductive Abort where
  | exit
  | nextRecord
  | nextFile

/-- What a program does. -/
abbrev Run (α : Type) := ExceptT Abort (StateT Machine Act) α

/-- A key of a table. -/
inductive Key where
  | text (s : String)
  | number (n : Int)

/-- The text of a key. -/
def Key.toText : Key → String
  | text s => s
  | number n => toString n

namespace Run

/-- Does something outside of the program. -/
def lift {α : Type} (action : Act α) : Run α :=
  ExceptT.lift (StateT.lift action)

/-- Changes the state. -/
def change (f : Machine → Machine) : Run Unit :=
  modify f

/-- Repeats a step until it has a result. -/
def repeatUntil {α : Type} (step : Run (Option α)) : Nat → Run α
  | 0 => lift (throw .endless)
  | rounds + 1 => fun m s =>
    match step m s with
    | (.ok (.ok none, m), s) => repeatUntil step rounds m s
    | (.ok (.ok (some a), m), s) => (.ok (.ok a, m), s)
    | (.ok (.error abort, m), s) => (.ok (.error abort, m), s)
    | (.error leave, s) => (.error leave, s)

/-- The value of a global variable as a text. -/
def globalText (name : String) : Run (List Char) := do
  let m ← get
  let form := ((m.vars.getD "CONVFMT" .blank).toText [])
  pure ((m.vars.getD name .blank).toText form)

/-- The form of numbers that become texts. -/
def form : Run (List Char) := do
  pure (((← get).vars.getD "CONVFMT" .blank).toText [])

/-- A value as a text. -/
def textOf (v : Value) : Run (List Char) := do
  match v with
  | .text s | .input s => pure s
  | .blank => pure []
  | .number x => pure (numberText (← form) x)

/-- Hands on what has been written to the output. -/
def flushOutput : Run Unit := do
  let m ← get
  if m.outputSize ≠ 0 then
    let text := m.output.reverse.flatten
    change fun m => { m with output := [], outputSize := 0 }
    lift (emit 1 text)

/-- Hands on what has been written to a file. -/
def flushOutlet (outlet : Outlet) : Run Unit := do
  match outlet.stream with
  | none => pure ()
  | some stream =>
    lift (emit stream outlet.pieces.reverse.flatten)
    change fun m => { m with outlets := m.outlets.map fun o =>
      if o.name = outlet.name then { o with pieces := [] } else o }

/-- Hands on all that has been written to files and to the output. -/
def flushAll : Run Unit := do
  flushOutput
  (← get).outlets.forM flushOutlet

/-- The size of the pieces in which output is handed on. -/
def pieceSize : Nat := 4096

/-- Writes to the output. -/
def write (text : List Char) : Run Unit := do
  change fun m =>
    { m with output := text :: m.output, outputSize := m.outputSize + text.length }
  let m ← get
  if pieceSize < m.outputSize then
    let text := m.output.reverse.flatten
    let size := text.length / pieceSize * pieceSize
    change fun m => { m with output := [text.drop size], outputSize := text.length - size }
    lift (emit 1 (text.take size))

/-- Ends the program at once. -/
def giveUp {α : Type} (text : String) : Run α := do
  lift (complain text)
  change fun m => { m with status := 2 }
  flushAll
  lift do
    finish 2
    throw .exit

/-- A text as it is shown between quotes. -/
def quoted (text : List Char) : String :=
  "\"" ++ String.ofList text ++ "\""

/-- Ends the program at once, with the place in the input. -/
def fault {α : Type} (text : String) : Run α := do
  let file := String.ofList (← globalText "FILENAME")
  let fileLine := String.ofList (← globalText "FNR")
  let line := String.ofList (← globalText "NR")
  lift (complain ("run time error: " ++ text))
  lift (warn ("\tFILENAME=\"" ++ file ++ "\" FNR=" ++ fileLine ++ " NR=" ++ line ++ "\n"))
  change fun m => { m with status := 2 }
  flushAll
  lift do
    finish 2
    throw .exit

/-- The expression that a text writes. -/
def regexFor (text : List Char) : Run Regex := do
  let key := String.ofList text
  match (← get).compiled[key]? with
  | some r => pure r
  | none =>
    match regexOf text with
    | .ok r =>
      change fun m => { m with compiled := m.compiled.insert key r }
      pure r
    | .error reason =>
      fault ("regular expression compile failed (" ++ reason ++ ")\n" ++ key)

/-- The parts of a text between matches of an expression. -/
def splitAt (r : Regex) (text : Array Char) : Nat → Nat → Nat → List (List Char)
  | 0, first, _ => [(text.extract first text.size).toList]
  | fuel + 1, first, start =>
    match r.find? text start with
    | none => [(text.extract first text.size).toList]
    | some m =>
      if m.start = m.stop then
        if text.size ≤ m.stop then [(text.extract first text.size).toList]
        else splitAt r text fuel first (m.stop + 1)
      else (text.extract first m.start).toList :: splitAt r text fuel m.stop m.stop

/-- The words of a text. -/
def words (text : List Char) : List (List Char) :=
  (go [] text).filter (!·.isEmpty)
where
  go (word : List Char) : List Char → List (List Char)
    | [] => [word.reverse]
    | c :: rest => if isBlank c then word.reverse :: go [] rest else go (c :: word) rest

/-- The parts of a text between places where a character stands. -/
def splitOnChar (mark : Char) (part : List Char) : List Char → List (List Char)
  | [] => [part.reverse]
  | c :: rest =>
    if c = mark then part.reverse :: splitOnChar mark [] rest
    else splitOnChar mark (c :: part) rest

/-- The parts of a text as a separator tells. -/
def parts (separator : List Char) (text : List Char) : Run (List (List Char)) := do
  if text.isEmpty then pure []
  else
    match separator with
    | [' '] => pure (words text)
    | [] => pure (text.map fun c => [c])
    | [c] => pure (splitOnChar c [] text)
    | _ =>
      let r ← regexFor separator
      let text := text.toArray
      pure (splitAt r text (text.size + 2) 0 0)

/-- Makes a text the record. -/
def setRecord (text : List Char) : Run Unit := do
  let fields ← parts (← globalText "FS") text
  change fun m => { m with
    record := text, stale := false, fields := (fields.map Value.input).toArray }

/-- The record, put together from its fields if they have changed. -/
def record : Run (List Char) := do
  let m ← get
  if m.stale then
    let separator ← globalText "OFS"
    let texts ← m.fields.toList.mapM textOf
    let text := List.intercalate separator texts
    change fun m => { m with record := text, stale := false }
    pure text
  else pure m.record

/-- The value of a field. -/
def field (n : Nat) : Run Value := do
  if n = 0 then pure (.input (← record))
  else pure ((← get).fields.getD (n - 1) .blank)

/-- Changes the number of fields. -/
def resize (count : Nat) : Run Unit :=
  change fun m =>
    let fields := m.fields.extract 0 count
    let fields := fields ++ Array.replicate (count - fields.size) (Value.text [])
    { m with fields, stale := true }

/-- Gives a field a value. -/
def setField (n : Nat) (v : Value) : Run Unit := do
  if n = 0 then setRecord (← textOf v)
  else
    if (← get).fields.size < n then resize n
    change fun m => { m with fields := m.fields.set! (n - 1) v, stale := true }

/-- The value of a variable. -/
def var (name : String) : Run Value := do
  let m ← get
  match m.frame.values.lookup name with
  | some v => pure v
  | none =>
    if name = "NF" then pure (.number (Float.ofNat m.fields.size))
    else pure (m.vars.getD name .blank)

/-- Gives a variable a value. -/
def setVar (name : String) (v : Value) : Run Unit := do
  let m ← get
  if (m.frame.values.lookup name).isSome then
    change fun m => { m with frame := { m.frame with
      values := m.frame.values.map fun (other, old) =>
        (other, if other = name then v else old) } }
  else if name = "NF" then resize (wholePart v.toNumber).toNat
  else change fun m => { m with vars := m.vars.insert name v }

/-- The table of a name. -/
def table (name : String) : Run Nat := do
  let m ← get
  match m.frame.tables.lookup name with
  | some index => pure index
  | none =>
    match m.globalTables[name]? with
    | some index => pure index
    | none =>
      let index := m.tables.size
      change fun m => { m with
        tables := m.tables.push {}, globalTables := m.globalTables.insert name index }
      pure index

/-- Changes a table. -/
def changeTable (index : Nat) (f : Table Value → Table Value) : Run Unit :=
  change fun m => { m with tables := m.tables.modify index f }

/-- The value in a table under a key, which is there from then on. -/
def item (index : Nat) (key : Key) : Run Value := do
  let t := (← get).tables.getD index {}
  let (found, t) := match key with
    | .text s => t.find s
    | .number n => t.findNumber n
  match found with
  | some v =>
    changeTable index fun _ => t
    pure v
  | none =>
    changeTable index fun _ => match key with
      | .text s => t.put s .blank
      | .number n => t.putNumber n .blank
    pure .blank

/-- Puts a value into a table. -/
def setItem (index : Nat) (key : Key) (v : Value) : Run Unit :=
  changeTable index fun t => match key with
    | .text s => t.put s v
    | .number n => t.putNumber n v

/-- The greatest number that is a key as such. -/
def maxKey : Int := 0x7FFFFFFF

/-- The key for a value. -/
def keyOf (v : Value) : Run Key := do
  match v with
  | .number x =>
    let n := wholePart x
    if ofInt n == x && -maxKey ≤ n && n ≤ maxKey then pure (.number n)
    else pure (.text (String.ofList (numberText (← form) x)))
  | v => pure (.text (String.ofList (← textOf v)))

/-- How the next record of a text ends: its length, and that of what separates it from the rest. -/
def recordEnd (separator : List Char) (text : List Char) : Run (Nat × Nat) := do
  match separator with
  | [] =>
    let rec paragraph (count : Nat) : List Char → Nat × Nat
      | '\n' :: '\n' :: rest => (count, 2 + (rest.takeWhile (· = '\n')).length)
      | ['\n'] => (count, 1)
      | _ :: rest => paragraph (count + 1) rest
      | [] => (count, 0)
    pure (paragraph 0 text)
  | [c] =>
    let length := (text.takeWhile (· ≠ c)).length
    pure (length, 1)
  | _ =>
    let r ← regexFor separator
    match r.find? text.toArray 0 with
    | some m =>
      if m.start = m.stop then pure (text.length, 0) else pure (m.start, m.stop - m.start)
    | none => pure (text.length, 0)

/-- The first record of a text and the rest of the text, if there is a record. -/
def cutRecord (text : List Char) : Run (Option (List Char × List Char)) := do
  let separator ← globalText "RS"
  let text := if separator.isEmpty then text.dropWhile (· = '\n') else text
  if text.isEmpty then pure none
  else
    let (length, gap) ← recordEnd separator text
    pure (some (text.take length, text.drop (length + gap)))

/-- The content of a file, of which some names stand for streams of the process. -/
def contentOf (name : String) : Act (Except FileError (List Char)) :=
  content (if name = "/dev/stdin" then "-" else name)

/-- Takes an argument that sets a variable. -/
def assignArgument (text : List Char) : Run Bool := do
  let name := text.takeWhile isNameChar
  match text.drop name.length with
  | '=' :: value =>
    if name.isEmpty || name.head?.any Char.isDigit then pure false
    else
      setVar (String.ofList name) (.input (Token.unescaped 0 value))
      pure true
  | _ => pure false

/-- Opens the next file that an argument names, or the input if no argument does. -/
def openFrom : Nat → Run Bool
  | 0 => pure false
  | fuel + 1 => do
    let m ← get
    let open' (name : String) : Run Bool := do
      match ← lift (contentOf name) with
      | .ok text =>
        change fun m => { m with input := some text, usedFile := true }
        setVar "FILENAME" (.text (if name = "-" then [] else name.toList))
        setVar "FNR" (.number 0)
        pure true
      | .error .isDirectory => giveUp ("read error (" ++ FileError.isDirectory.reason ++ ")")
      | .error .notOpen => giveUp ("read error (" ++ FileError.notOpen.reason ++ ")")
      | .error e => giveUp ("cannot open " ++ name ++ " (" ++ e.reason ++ ")")
    let count := wholePart ((m.vars.getD "ARGC" .blank).toNumber)
    if count ≤ m.nextArg then
      if m.usedFile then pure false else open' "-"
    else
      change fun m => { m with nextArg := m.nextArg + 1 }
      let args ← table "ARGV"
      let t := (← get).tables.getD args {}
      match t.values[toString m.nextArg]? with
      | none => openFrom fuel
      | some v =>
        let text ← textOf v
        if text.isEmpty then openFrom fuel
        else if ← assignArgument text then openFrom fuel
        else open' (String.ofList text)

/-- The next record of the input. -/
def nextRecord : Nat → Run (Option (List Char))
  | 0 => pure none
  | fuel + 1 => do
    match (← get).input with
    | none => if ← openFrom 100000 then nextRecord fuel else pure none
    | some text =>
      match ← cutRecord text with
      | some (record, rest) =>
        change fun m => { m with input := some rest }
        pure (some record)
      | none =>
        change fun m => { m with input := none }
        if ← openFrom 100000 then nextRecord fuel else pure none

/-- Counts a record. -/
def count (names : List String) : Run Unit :=
  names.forM fun name => do
    setVar name (.number ((← var name).toNumber + 1))

/-- Reads the next record of the input. -/
def readRecord : Run (Option (List Char)) := do
  match ← nextRecord 100000 with
  | some record =>
    count ["NR", "FNR"]
    pure (some record)
  | none => pure none

/-- The next record of a file or of the output of a command. -/
def readFrom (r : Runner) (isCommand : Bool) (name : String) :
    Run (Except FileError (Option (List Char))) := do
  let opened : Except FileError (Nat × List Char) ← match (← get).sources.lookup name with
    | some source => pure (.ok source)
    | none =>
      if isCommand then
        flushAll
        let before ← lift get
        let text ← lift (captured (becomeShell r name.toList))
        let status := (← lift get).status
        lift (finish before.status)
        pure (.ok (status, text))
      else
        match ← lift (contentOf name) with
        | .ok text => pure (.ok (0, text))
        | .error .isDirectory => giveUp ("read error (" ++ FileError.isDirectory.reason ++ ")")
        | .error e => pure (.error e)
  match opened with
  | .error e => pure (.error e)
  | .ok (status, text) =>
    match ← cutRecord text with
    | some (record, rest) =>
      change fun m => { m with sources := putPair name (status, rest) m.sources }
      pure (.ok (some record))
    | none =>
      change fun m => { m with sources := putPair name (status, []) m.sources }
      pure (.ok none)

/-- Writes to a file or to the input of a command. -/
def writeTo (command : Bool) (mode : WriteMode) (name : String) (text : List Char) :
    Run Unit := do
  if !command && (name = "/dev/stdout" || name = "-") then write text
  else if !command && name = "/dev/stderr" then lift (emit 2 text)
  else
    if ((← get).outlets.find? (·.name = name)).isNone then
      if command then
        flushAll
        change fun m => { m with outlets := m.outlets ++ [⟨name, none, []⟩] }
      else
        let s ← lift get
        match s.openToWrite name mode with
        | .error e =>
          giveUp ("cannot open " ++ quoted name.toList ++ " for output (" ++ e.reason ++ ")")
        | .ok (files, target) =>
          let stream := 100 + s.channels.size
          lift (set ({ s with files }.attach stream target))
          change fun m => { m with outlets := m.outlets ++ [⟨name, some stream, []⟩] }
    change fun m => { m with outlets := m.outlets.map fun o =>
      if o.name = name then { o with pieces := text :: o.pieces } else o }

/-- How a process has ended, as a number. -/
def endNumber : ChildEnd → Nat
  | .exited status => status
  | .killed signal => 256 + signal
  | .refused _ => 127

/-- Ends with a file or a command that has been written to. -/
def closeOutlet (r : Runner) (outlet : Outlet) : Run Nat := do
  match outlet.stream with
  | some _ =>
    flushOutlet outlet
    pure 0
  | none =>
    let text := outlet.pieces.reverse.flatten
    let ending ← lift <| inChild do
      modify fun s => s.openStream 0 (.source text false)
      becomeShell r outlet.name.toList
    pure (endNumber ending)

/-- Ends with what has a name. -/
def close (r : Runner) (name : String) : Run Int := do
  let m ← get
  match m.outlets.find? (·.name = name), m.sources.lookup name with
  | some outlet, _ =>
    let status ← closeOutlet r outlet
    change fun m => { m with outlets := m.outlets.filter (·.name ≠ name) }
    pure status
  | none, some (status, _) =>
    change fun m => { m with sources := m.sources.filter (·.1 ≠ name) }
    pure status
  | none, none => pure (-1)

/-- Ends with all commands, and hands on all that has been written. -/
def settle (r : Runner) : Run Unit := do
  (← get).outlets.forM fun outlet => do
    if outlet.stream.isNone then
      let _ ← closeOutlet r outlet
  flushAll

end Run

end RemoteAttach.Tool.Awk
