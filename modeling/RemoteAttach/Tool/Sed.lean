import RemoteAttach.Tool.Usage
import RemoteAttach.Tool.Child
import RemoteAttach.Tool.Copy
import RemoteAttach.Tool.Sed.Reader

/-! The stream editor: its commands are run for every line of the input, over a pattern space that
holds the line and a hold space that is kept from line to line. -/

namespace RemoteAttach.Tool.Sed

open Shell Act

/-- What has been written and not been handed on. -/
structure Writer where
  /-- The pieces, the last one first. -/
  pieces : List (List Char) := []
  size : Nat := 0
  /-- The last line still lacks its end. -/
  isOpen : Bool := false

namespace Writer

/-- Adds a text. -/
def add (w : Writer) (text : List Char) : Writer :=
  { w with pieces := text :: w.pieces, size := w.size + text.length }

/-- Adds the end of the last line if it lacks one. -/
def close (mark : Char) (w : Writer) : Writer :=
  if w.isOpen then { w.add [mark] with isOpen := false } else w

/-- Adds a line, which may lack its end. -/
def line (mark : Char) (text : List Char) (ended : Bool) (w : Writer) : Writer :=
  let w := (w.close mark).add text
  if ended then w.add [mark] else { w with isOpen := true }

/-- What has been written. -/
def text (w : Writer) : List Char :=
  w.pieces.reverse.flatten

end Writer

/-- How far a command is in the range of lines that it is meant for. -/
inductive Range where
  | before
  /-- Within the range, which ends at a line if that is known. -/
  | within (stop : Option Nat)
  | after
  deriving DecidableEq

/-- What is written at the end of a cycle. -/
inductive Queued where
  | text (text : List Char)
  /-- A text of the script. -/
  | lines (text : List Char)
  | file (name : String)

/-- What the editor has been told to do. -/
structure Form where
  script : Script
  quiet : Bool
  mark : Char
  /-- Every file is an input of its own. -/
  separate : Bool
  /-- Files are changed in their place; what they were is kept under a name with this suffix. -/
  inPlace : Option String
  width : Nat
  unbuffered : Bool
  /-- The number of parts of the script. -/
  parts : Nat

/-- What the editor knows at some moment. -/
structure Editing where
  form : Form
  /-- The files that have not been opened. -/
  files : List String
  /-- The name of the file that is read, and what is left of it. -/
  name : String := "-"
  rest : Option (List Char) := none
  /-- The number of characters that the input of the process held. -/
  inputSize : Nat := 0
  pattern : List Char := []
  /-- The line in the pattern space had an end. -/
  ended : Bool := true
  hold : List Char := []
  holdEnded : Bool := true
  line : Nat := 0
  replaced : Bool := false
  ranges : Array Range
  /-- What is written at the end of the cycle, the last one first. -/
  queue : List Queued := []
  last : Option Regex := none
  output : Writer := {}
  /-- What is written into the file that is changed. -/
  changed : Writer := {}
  /-- The files that are written by commands, with their streams. -/
  written : List (String × Nat × Writer) := []
  /-- The files that are read line by line, with what is left of them. -/
  read : List (String × List Char) := []
  /-- Some file could not be read. -/
  failed : Bool := false

/-- What the editor does. -/
abbrev Edit (α : Type) := StateT Editing Act α

/-- What comes after a command. -/
inductive Next where
  | command (index : Nat)
  /-- The end of the cycle, with the pattern space as output. -/
  | cycle
  /-- The end of the cycle. -/
  | dropped
  /-- A new cycle with what is left of the pattern space. -/
  | again
  | quit (prints : Bool) (status : Nat)

namespace Edit

/-- The size of the pieces in which output is handed on. -/
def pieceSize : Nat := 4096

/-- Hands on what has been written: all of it, or only whole pieces. -/
def flush (all : Bool) : Edit Unit := do
  let e ← get
  let text := e.output.text
  let size := if all then text.length else text.length / pieceSize * pieceSize
  let rest := text.drop size
  set { e with output := { e.output with pieces := [rest], size := rest.length } }
  if size ≠ 0 then
    let s ← (MonadState.get : Act State)
    let (after, ending) := s.write 1 (text.take size)
    match ending with
    | .done => (MonadState.set after : Act Unit)
    | .full =>
      (MonadState.set after : Act Unit)
      throw (.killed 13)
    | .closed =>
      complain "couldn't close stdout: Bad file descriptor"
      finish 4
      throw .exit

/-- Gives up, after handing on what has been written. -/
def giveUp {α : Type} (text : String) (status : Nat) : Edit α := do
  complain text
  flush true
  finish status
  throw .exit

/-- Writes to the output, or to the file that is changed. -/
def put (change : Writer → Writer) : Edit Unit := do
  let e ← get
  if e.form.inPlace.isSome then set { e with changed := change e.changed }
  else
    set { e with output := change e.output }
    if e.form.unbuffered then flush true
    else if pieceSize < (← get).output.size then flush false

/-- Writes a line to the output. -/
def putLine (text : List Char) (ended : Bool) : Edit Unit := do
  let mark := (← get).form.mark
  put (Writer.line mark text ended)

/-- Writes a text to the output, after the end of the last line. -/
def putText (text : List Char) : Edit Unit := do
  let mark := (← get).form.mark
  put fun w => (w.close mark).add text

/-- Writes a text of the script to the output. Its last line ends like those of the input. -/
def putLines (text : List Char) : Edit Unit := do
  let mark := (← get).form.mark
  if text.getLast? = some '\n' then putText (text.dropLast ++ [mark]) else putText text

/-- Writes a line to a file. -/
def writeTo (name : String) (text : List Char) (ended : Bool) : Edit Unit := do
  let e ← get
  let mark := e.form.mark
  if name = "/dev/stdout" then
    if e.form.inPlace.isSome then set { e with output := e.output.line mark text ended }
    else put (Writer.line mark text ended)
  else
    match e.written.lookup name with
    | none => pure ()
    | some (stream, w) =>
      let w := w.line mark text ended
      if e.form.unbuffered || name = "/dev/stderr" || pieceSize < w.size then
        emit stream w.text
        let w : Writer := { isOpen := w.isOpen }
        modify fun e => { e with written := putPair name (stream, w) e.written }
      else modify fun e => { e with written := putPair name (stream, w) e.written }

/-- Ends with a file: the one that is changed gets its new content. -/
def closeFile : Edit Unit := do
  let e ← get
  match e.form.inPlace, e.rest with
  | some suffix, some _ =>
    let s ← (MonadState.get : Act State)
    match nodeAt s e.name false with
    | .error _ => pure ()
    | .ok (path, node) =>
      let mode := match nodeAt s e.name with
        | .ok (_, .file _ mode) => mode
        | _ => Node.usualMode
      let files := if suffix.isEmpty then s.files
        else
          let base := lastName e.name
          let kept := if suffix.contains '*' then
              String.intercalate base (suffix.splitOn "*") else base ++ suffix
          let spare := path.dropLast ++ [kept]
          (s.files.erase spare).add (.alone spare node)
      let content := Text.toContent e.changed.text
      let files := (files.erase path).add (.alone path (.file content mode))
      (MonadState.set { s with files } : Act Unit)
    set { e with rest := none, changed := {} }
  | _, _ => set { e with rest := none }

/-- The ranges of commands before the first line. -/
def freshRanges (script : Script) : Array Range :=
  script.commands.map fun c => match c.lines.first with
    | some (.line 0) => .within none
    | _ => .before

/-- Opens the next file, if there is one. -/
def openNext : Edit Bool := do
  let e ← get
  match e.files with
  | [] => pure false
  | name :: files =>
    set { e with files }
    let entered : List Char → Edit Unit := fun text => modify fun e =>
      let e := { e with name, rest := some text }
      if e.form.separate then
        { e with
          line := 0, hold := [], holdEnded := true, ranges := freshRanges e.form.script
          output := if e.form.inPlace.isSome then e.output else e.output.close e.form.mark }
      else e
    if name = "-" && e.form.inPlace.isNone then
      if (← (MonadState.get : Act State)).rest? 0 |>.isNone then
        giveUp "read error on stdin: Bad file descriptor" 4
      let text := ((← (MonadState.get : Act State)).rest? 0).getD []
      modify fun e => { e with inputSize := text.length }
      entered text
    else
      let s ← (MonadState.get : Act State)
      if e.form.inPlace.isSome && s.files.isFolder s.folder name then
        giveUp ("couldn't edit " ++ name ++ ": not a regular file") 4
      match ← content name with
      | .ok text => entered text
      | .error .isDirectory =>
        giveUp ("read error on " ++ name ++ ": " ++ FileError.isDirectory.reason) 4
      | .error e =>
        complain ("can't read " ++ name ++ ": " ++ e.reason)
        modify fun e => { e with failed := true }
    pure true

/-- There is more input after this line. Files without content are passed over. -/
def moreFrom : Nat → Edit Bool
  | 0 => pure false
  | fuel + 1 => do
    let e ← get
    match e.rest with
    | some (_ :: _) => pure true
    | some [] =>
      if e.form.separate then pure false
      else if ← openNext then moreFrom fuel
      else pure false
    | none => if ← openNext then moreFrom fuel else pure false

/-- There is more input after this line. -/
def hasMore : Edit Bool := do
  moreFrom ((← get).files.length + 2)

/-- Reads a line and tells whether it has an end, if there is one. -/
def readFrom : Nat → Edit (Option (List Char × Bool))
  | 0 => pure none
  | fuel + 1 => do
    let e ← get
    match e.rest with
    | some (c :: rest) =>
      let text := c :: rest
      let line := text.takeWhile (· ≠ e.form.mark)
      match text.drop line.length with
      | _ :: rest =>
        set { e with rest := some rest }
        pure (some (line, true))
      | [] =>
        set { e with rest := some [] }
        pure (some (line, false))
    | some [] =>
      closeFile
      if ← openNext then readFrom fuel else pure none
    | none => if ← openNext then readFrom fuel else pure none

/-- Writes what has been kept for the end of the cycle. -/
def dump : Edit Unit := do
  let e ← get
  set { e with queue := [] }
  e.queue.reverse.forM fun queued => match queued with
    | .text text => putText text
    | .lines text => putLines text
    | .file name => do
      match ← (if name = "/dev/stdin" then content "-" else content name) with
      | .ok text => putText text
      | .error _ => pure ()

/-- Reads the next line into the pattern space, in place of what is there or after it. -/
def readLine (adds : Bool) : Edit Bool := do
  dump
  modify fun e => { e with replaced := false }
  match ← readFrom (2 * (← get).files.length + 3) with
  | none => pure false
  | some (text, ended) =>
    modify fun e => { e with
      line := e.line + 1, ended
      pattern := if adds then e.pattern ++ e.form.mark :: text else text }
    pure true

/-- Searches the pattern space. -/
def search (r : Option Regex) : Edit Regex := do
  match r.or (← get).last with
  | some r =>
    modify fun e => { e with last := some r }
    pure r
  | none =>
    giveUp ("-e expression #" ++ toString (← get).form.parts ++ ", char 0: " ++
      Fault.noExpression.message) 1

/-- The line is at an address. -/
def isAt (a : Address) : Edit Bool := do
  let e ← get
  match a with
  | .line n => pure (e.line = n)
  | .step first size => pure (first ≤ e.line && (e.line - first) % size = 0)
  | .last => pure !(← hasMore)
  | .pattern r => pure ((← search r).occursIn e.pattern.toArray)
  | .later _ | .multiple _ => pure false

/-- The line is in a range of lines, whose state is kept for a command. -/
def isWithin (index : Nat) (first second : Address) : Edit Bool := do
  let e ← get
  let l := e.line
  let turn (range : Range) : Edit Unit :=
    modify fun e => { e with ranges := e.ranges.set! index range }
  let numbered := match first with
    | .line _ => true
    | _ => false
  let enter : Edit Bool := do
    match second with
    | .later n =>
      turn (if n = 0 then .after else .within (some (l + n)))
      pure true
    | .multiple n =>
      turn (if n = 0 then .after else .within (some (l + n - l % n)))
      pure true
    | .line n =>
      if l < n then
        turn (.within none)
        pure true
      else
        turn .after
        let isFirst := match first with
          | .line m => l = m || l ≤ n
          | _ => true
        pure isFirst
    | _ =>
      turn (.within none)
      pure true
  match e.ranges.getD index .before with
  | .within stop =>
    match stop, second with
    | some stop, _ =>
      if stop ≤ l then turn .after
      pure true
    | none, .line n =>
      if n ≤ l then turn .after
      pure (l ≤ n)
    | none, _ =>
      if ← isAt second then turn .after
      pure true
  | range =>
    if numbered then
      match first with
      | .line m => if range = .after || l < m then pure false else enter
      | _ => pure false
    else if ← isAt first then enter
    else pure false

/-- A command is meant for the line. -/
def selects (index : Nat) (lines : Lines) : Edit Bool := do
  let inside ← match lines.first, lines.second with
    | none, _ => pure true
    | some first, none => isAt first
    | some first, some second => isWithin index first second
  pure (inside != lines.negated)

/-- A letter in another case. -/
def inCase (case : Case) (c : Char) : Char :=
  match case with
  | .kept => c
  | .upper => c.toUpper
  | .lower => c.toLower

/-- A text in other letter cases. -/
def casedText (case : Case) (first : Option Case) : List Char → List Char
  | [] => []
  | c :: rest => inCase (first.getD case) c :: rest.map (inCase case)

/-- What a match is replaced by. `first` is a change of the first letter that has not found one. -/
def replacementFor (m : Regex.Match) (text : Array Char) : Option Case → List Piece → List Char
  | _, [] => []
  | first, piece :: rest =>
    let here := if piece.first.isSome then piece.first else first
    let start := casedText piece.case here piece.text
    let left := if piece.text.isEmpty then here else none
    match piece.group with
    | none => start ++ replacementFor m text none rest
    | some index =>
      let group := m.group text index
      if group.isEmpty then
        start ++ replacementFor m text (if piece.first.isSome then left else none) rest
      else start ++ casedText piece.case left group ++ replacementFor m text none rest

/-- A text from a position on in which matches are replaced, in reverse, or nothing if none is.
`count` is the number of matches before it, and `last` the place where the last one ended. -/
def replaceFrom (s : Substitution) (r : Regex) (text : Array Char) :
    Nat → Nat → Nat → Option Nat → Bool → List Char → Bool × List Char
  | 0, start, _, _, done, out => (done, (text.extract start text.size).toList.reverse ++ out)
  | fuel + 1, start, count, last, done, out =>
    let finish : Bool → Nat → List Char → Bool × List Char := fun done start out =>
      (done, (text.extract start text.size).toList.reverse ++ out)
    if text.size < start then (done, out)
    else
      match r.find? text start with
      | none => finish done start out
      | some m =>
        let out := (text.extract start m.start).toList.reverse ++ out
        let isEmpty := m.start = m.stop
        let one := (text.extract m.stop (m.stop + 1)).toList
        if isEmpty && last = some m.start then
          if text.size ≤ m.stop then (done, out)
          else replaceFrom s r text fuel (m.stop + 1) count none done (one ++ out)
        else
          let count := count + 1
          let replaces := s.occurrence ≤ count
          let middle := if replaces then replacementFor m text none s.replacement
            else m.group text 0
          let out := middle.reverse ++ out
          let done := done || replaces
          if replaces && !s.everywhere then finish done m.stop out
          else if isEmpty then
            if text.size ≤ m.stop then (done, out)
            else replaceFrom s r text fuel (m.stop + 1) count none done (one ++ out)
          else replaceFrom s r text fuel m.stop count (some m.stop) done out

/-- What a command of the shell writes. -/
def outputOf (r : Runner) (command : List Char) : Act (List Char) := do
  captured (becomeShell r command)

/-- A text without a mark at its end. -/
def withoutEnd (mark : Char) (text : List Char) : List Char :=
  if text.getLast? = some mark then text.dropLast else text

/-- Replaces matches in the pattern space. -/
def substitute (r : Runner) (s : Substitution) : Edit Unit := do
  let regex ← search s.expression
  let e ← get
  let text := e.pattern.toArray
  let (done, reversed) := replaceFrom s regex text (text.size + 2) 0 0 none false []
  if done then
    set { e with pattern := reversed.reverse, replaced := true }
    if s.printsBefore then putLine (← get).pattern e.ended
    if s.runs then
      let result ← outputOf r (← get).pattern
      modify fun e => { e with pattern := withoutEnd e.form.mark result }
    if s.prints then putLine (← get).pattern e.ended
    match s.file with
    | some name => writeTo name (← get).pattern e.ended
    | none => pure ()

/-- A character as it is shown without doubt. -/
def shownChar (c : Char) : List Char :=
  match c with
  | '\\' => ['\\', '\\']
  | '\x07' => ['\\', 'a']
  | '\x08' => ['\\', 'b']
  | '\x0c' => ['\\', 'f']
  | '\n' => ['\\', 'n']
  | '\r' => ['\\', 'r']
  | '\t' => ['\\', 't']
  | '\x0b' => ['\\', 'v']
  | c =>
    if isPrintable c then [c]
    else
      let digits := Nat.toDigits 8 c.toNat
      '\\' :: List.replicate (3 - digits.length) '0' ++ digits

/-- A line as it is shown without doubt, cut into lines of a width unless that is zero. -/
def shownFrom (width : Nat) : Nat → List Char → List Char
  | _, [] => ['$', '\n']
  | column, c :: rest =>
    let here := shownChar c
    if width ≠ 0 && width - 1 < column + here.length then
      '\\' :: '\n' :: here ++ shownFrom width here.length rest
    else here ++ shownFrom width (column + here.length) rest

/-- The next line of a file that is read line by line, with its end. -/
def lineOf (name : String) : Edit (List Char) := do
  let e ← get
  let text ← match e.read.lookup name with
    | some text => pure text
    | none =>
      match ← (if name = "/dev/stdin" then content "-" else content name) with
      | .ok text => pure text
      | .error _ => pure []
  let line := text.takeWhile (· ≠ e.form.mark)
  let size := line.length + 1
  modify fun e => { e with read := putPair name (text.drop size) e.read }
  pure (text.take size)

/-- Does what a command says, and tells what comes next. -/
def perform (r : Runner) (index : Nat) (command : Command) : Edit Next := do
  let e ← get
  let mark := e.form.mark
  let on : Next := .command (index + 1)
  let firstLine := e.pattern.takeWhile (· ≠ mark)
  let isWhole := firstLine.length = e.pattern.length
  let keep (queued : Queued) : Edit Next := do
    modify fun e => { e with queue := queued :: e.queue }
    pure on
  match command.verb with
  | .block _ => pure on
  | .jump kind label =>
    let goes := match kind with
      | .always => true
      | .ifReplaced => e.replaced
      | .unlessReplaced => !e.replaced
    if kind ≠ .always then set { e with replaced := false }
    if !goes then pure on
    else if label.isEmpty then pure (.command e.form.script.commands.size)
    else pure (.command ((e.form.script.labels.lookup label).getD 0))
  | .append text => keep (.lines text)
  | .insert text =>
    putLines text
    pure on
  | .change text =>
    let inside := match e.ranges.getD index .before with
      | .within _ => command.lines.second.isSome
      | _ => false
    if !inside then putLines text
    pure .dropped
  | .delete => pure .dropped
  | .deleteLine =>
    if isWhole then pure .dropped
    else
      set { e with pattern := e.pattern.drop (firstLine.length + 1) }
      pure .again
  | .run text =>
    if text.isEmpty then
      let result ← outputOf r e.pattern
      modify fun e => { e with pattern := withoutEnd mark result }
    else putText (← outputOf r text)
    pure on
  | .fileName =>
    putText (e.name.toList ++ [mark])
    pure on
  | .lineNumber =>
    putText ((toString e.line).toList ++ [mark])
    pure on
  | .get =>
    set { e with pattern := e.hold, ended := e.holdEnded }
    pure on
  | .getMore =>
    set { e with pattern := e.pattern ++ mark :: e.hold, ended := e.holdEnded }
    pure on
  | .hold =>
    set { e with hold := e.pattern, holdEnded := e.ended }
    pure on
  | .holdMore =>
    set { e with hold := e.hold ++ mark :: e.pattern, holdEnded := e.ended }
    pure on
  | .exchange =>
    set { e with
      pattern := e.hold, ended := e.holdEnded, hold := e.pattern, holdEnded := e.ended }
    pure on
  | .next =>
    if ← hasMore then
      if !e.form.quiet then putLine e.pattern e.ended
      if ← readLine false then pure on else pure .dropped
    else pure .cycle
  | .nextMore =>
    if ← hasMore then
      if ← readLine true then pure on else pure .cycle
    else pure .cycle
  | .print =>
    putLine e.pattern e.ended
    pure on
  | .printLine =>
    putLine firstLine (!isWhole || e.ended)
    pure on
  | .clear =>
    set { e with pattern := [] }
    pure on
  | .show width =>
    putLines (shownFrom (width.getD e.form.width) 0 e.pattern)
    pure on
  | .quit status => pure (.quit true status)
  | .leave status => pure (.quit false status)
  | .readFile name => keep (.file name)
  | .readLine name =>
    let line ← lineOf name
    if line.isEmpty then pure on else keep (.text line)
  | .writeFile name =>
    writeTo name e.pattern e.ended
    pure on
  | .writeLine name =>
    writeTo name firstLine (!isWhole || e.ended)
    pure on
  | .substitute s =>
    substitute r s
    pure on
  | .transliterate table =>
    set { e with pattern := e.pattern.map fun c => (table.lookup c).getD c }
    pure on

/-- Runs a command if it is meant for the line. -/
def step (r : Runner) (index : Nat) : Edit Next := do
  match (← get).form.script.commands[index]? with
  | none => pure .cycle
  | some command =>
    if ← selects index command.lines then perform r index command
    else
      match command.verb with
      | .block stop => pure (.command stop)
      | _ => pure (.command (index + 1))

/-- Runs the commands from one on up to the end of the cycle. -/
def runFrom (r : Runner) : Nat → Nat → Editing → Act (Next × Editing)
  | 0, _, _ => throw .endless
  | fuel + 1, index, e => fun s =>
    match step r index e s with
    | (.ok (.command index, e), s) => runFrom r fuel index e s
    | other => other

/-- Runs one cycle, and tells with which status to end if it is the last one. -/
def cycle (r : Runner) (again : Bool) : Edit (Option Nat × Bool) := do
  let there ← if again then pure true else readLine false
  if !there then pure (some 0, false)
  else
    let next ← fun (e : Editing) => runFrom r maxRounds 0 e
    let e ← get
    match next with
    | .quit prints status =>
      if prints then
        if !e.form.quiet then putLine e.pattern e.ended
        dump
      pure (some status, false)
    | .dropped =>
      dump
      pure (none, false)
    | .again =>
      dump
      pure (none, true)
    | .cycle | .command _ =>
      if !e.form.quiet then putLine e.pattern e.ended
      dump
      pure (none, false)

/-- Runs cycles to the end. -/
def cyclesFrom (r : Runner) : Nat → Bool → Editing → Act (Nat × Editing)
  | 0, _, _ => throw .endless
  | fuel + 1, again, e => fun s =>
    match cycle r again e s with
    | (.ok ((none, again), e), s) => cyclesFrom r fuel again e s
    | (.ok ((some status, _), e), s) => (.ok (status, e), s)
    | (.error leave, s) => (.error leave, s)

/-- Ends. No more is taken from the input than has been read of it. -/
def settle (status : Nat) : Edit Unit := do
  let e ← get
  closeFile
  flush true
  forAll e.written fun (_, stream, w) => emit stream w.text
  if e.inputSize ≠ 0 then
    match (← (MonadState.get : Act State)).channel? 0 with
    | some (_, channel) =>
      let left := if e.name = "-" then (e.rest.getD []).length else 0
      let used := if channel.winds then e.inputSize - left else e.inputSize
      (MonadState.modifyGet fun s => ((), s.advance 0 used) : Act Unit)
    | none => pure ()
  finish (if e.failed then 2 else status)

end Edit

/-- Refuses a script. -/
def refuse {α : Type} (place : String) (fault : Fault) : Act α := do
  fail (place ++ ": " ++ fault.message)

/-- Refuses a call. -/
def usage {α : Type} : Act α := do
  warn Usage.streamEditor
  finish 1
  throw .exit

/-- The names of the files that commands of a script write. -/
def filesOf (script : Script) : List String :=
  script.commands.toList.filterMap fun c => match c.verb with
    | .writeFile name | .writeLine name => some name
    | .substitute s => s.file
    | _ => none

/-- Opens the files that commands of a script write. -/
def openFiles (script : Script) : Act (List (String × Nat × Writer)) := do
  let names := (filesOf script).eraseDups.filter (· ≠ "/dev/stdout")
  names.mapM fun name => do
    let s ← get
    let opened := if name = "/dev/stderr" then s.openToWrite "/dev/fd/2" .append
      else s.openToWrite name .forced
    match opened with
    | .error e => fail ("couldn't open file " ++ name ++ ": " ++ e.reason) 4
    | .ok (files, target) =>
      let stream := 100 + s.channels.size
      set ({ s with files }.attach stream target)
      pure (name, stream, {})

/-- Reads a script, of which every part is a text or a file. -/
def readScript (d : Dialect) (parts : List (Bool × String)) : Act Script := do
  let step (u : Unread) (part : (Bool × String) × Nat) : Act Unread := do
    let ((isFile, text), n) := part
    let content ← if !isFile then pure text.toList
      else
        match ← (if text = "/dev/stdin" then content "-" else content text) with
        | .ok content => pure content
        | .error e => fail ("couldn't open file " ++ text ++ ": " ++ e.reason) 4
    let before := (parts.take (n + 1)).filter fun (isFile, _) => !isFile
    let content := if isFile && content.getLast? = some '\n' then content.dropLast else content
    match (Reading.part (n = 0) content).run u with
    | .ok _ u => pure u
    | .error fault u =>
      let _ ← openFiles u.script
      if isFile then
        refuse ("file " ++ text ++ " line " ++ toString (u.line + 1)) fault
      else
        refuse ("-e expression #" ++ toString before.length ++ ", char " ++
          toString u.position) fault
  let u ← parts.zipIdx.foldlM step { dialect := d }
  match u.blocks, parts.getLast? with
  | [], _ | _, none => pure u.script
  | _, some (true, name) =>
    refuse ("file " ++ name ++ " line " ++ toString (u.blockLine + 1)) .openBrace
  | _, _ =>
    let count := (parts.filter fun (isFile, _) => !isFile).length
    refuse ("-e expression #" ++ toString count ++ ", char 0") .openBrace

/-- The label of a jump that leads nowhere. -/
def lostLabel? (script : Script) : Option String :=
  script.commands.toList.findSome? fun c => match c.verb with
    | .jump _ label =>
      if label.isEmpty || (script.labels.lookup label).isSome then none else some label
    | _ => none

/-- The options. -/
def optionForm : Options where
  letters := "bsnrzuEe:f:l:i::V:"
  names := [("binary", 'b', .nothing), ("debug", '1', .nothing), ("expression", 'e', .value),
    ("file", 'f', .value), ("follow-symlinks", '2', .nothing), ("help", 'h', .nothing),
    ("in-place", 'i', .perhaps), ("line-length", 'l', .value), ("null-data", 'z', .nothing),
    ("zero-terminated", 'z', .nothing), ("posix", 'p', .nothing), ("quiet", 'n', .nothing),
    ("regexp-extended", 'E', .nothing), ("sandbox", '3', .nothing), ("separate", 's', .nothing),
    ("silent", 'n', .nothing), ("unbuffered", 'u', .nothing), ("version", 'v', .nothing)]

/-- Edits the input. -/
def run (r : Runner) (args : List String) : Act Unit := do
  let f ← match optionForm.read args with
    | .ok found => pure found
    | .error text =>
      complain text
      usage
  if f.has 'v' then
    writeText "sed (GNU sed) 4.9\n"
    throw .exit
  if f.has 'h' then
    writeText (Usage.streamEditor ++ Usage.lines ["E-mail bug reports to: <bug-sed@gnu.org>."])
    throw .exit
  let given := f.options.filterMap fun (c, value) =>
    if c = 'e' then some (false, value) else if c = 'f' then some (true, value) else none
  let (parts, operands) ← match given, f.operands with
    | [], [] => usage
    | [], script :: operands => pure ([(false, script)], operands)
    | given, operands => pure (given, operands)
  let extended := f.has 'E' || f.has 'r'
  let script ← readScript { extended, byLines := !f.has 'z', sandboxed := f.has '3' } parts
  match lostLabel? script with
  | some label => fail ("can't find label for jump to `" ++ label ++ "'") 4
  | none => pure ()
  let written ← openFiles script
  let inPlace := f.value? 'i'
  let form : Form := {
    script
    quiet := f.has 'n' || script.quiet
    mark := if f.has 'z' then '\x00' else '\n'
    separate := f.has 's' || inPlace.isSome
    inPlace
    width := ((f.value? 'l').bind String.toNat?).getD 70
    unbuffered := f.has 'u'
    parts := (parts.filter fun (isFile, _) => !isFile).length }
  let editing : Editing := {
    form, written, files := orInput operands, ranges := Edit.freshRanges script }
  let (status, editing) ← Edit.cyclesFrom r maxRounds false editing
  let _ ← (Edit.settle status).run editing

end RemoteAttach.Tool.Sed
