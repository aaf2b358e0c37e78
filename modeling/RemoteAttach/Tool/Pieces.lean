import RemoteAttach.Text.Regex.Reader
import RemoteAttach.Tool.Split

/-! Programs that cut files where their content says so, take a part of a file, or make it shorter
or longer. -/

namespace RemoteAttach.Tool

open Shell Act

/-- Where a piece ends that is cut by its content. -/
inductive Border where
  | line (number : Nat)
  /-- The first line in which the expression is found, and some lines on. What stands before it is
  dropped or becomes a piece. -/
  | found (drops : Bool) (regex : Regex) (offset : Int)

/-- A border with its text, and how often it is used: a number of times, or as long as it is
there. -/
structure BorderUse where
  text : String
  border : Border
  again : Option Nat := some 0

/-- The border that an argument means. -/
def Border.ofText (text : String) : Except String Border := do
  match text.toList with
  | c :: rest =>
    if c = '/' || c = '%' then
      match Text.cutAt c rest.reverse with
      | none => .error (text ++ ": closing delimiter '" ++ c.toString ++ "' missing")
      | some (offset, pattern) =>
        match Regex.read { emptyRanges := true } pattern.reverse with
        | .error e => .error (cited text ++ ": invalid regular expression: " ++ e.message)
        | .ok regex =>
          let offset := String.ofList offset.reverse
          let bare := if offset.startsWith "+" then (offset.drop 1).toString else offset
          match (if offset.isEmpty then some 0 else bare.toInt?) with
          | some n => .ok (.found (c = '%') regex n)
          | none => .error (cited text ++ ": integer expected after delimiter")
    else
      match text.toNat? with
      | some 0 => .error (text ++ ": line number must be greater than zero")
      | some n => .ok (.line n)
      | none => .error (cited text ++ ": invalid pattern")
  | [] => .error (cited text ++ ": invalid pattern")

/-- Arguments, each with the one between braces that may follow it. -/
def withRepeats : List String → List (String × Option String)
  | [] => []
  | [text] => [(text, none)]
  | text :: next :: rest =>
    if next.startsWith "\x7b" then (text, some next) :: withRepeats rest
    else (text, none) :: withRepeats (next :: rest)

/-- The border that an argument means, used once more often than the number between braces says. -/
def borderUse (text : String) (again : Option String) : Except String BorderUse := do
  let border ← Border.ofText text
  match again.map String.toList with
  | none => pure ⟨text, border, some 0⟩
  | some braces =>
    let whole := String.ofList braces
    let inside := (braces.drop 1).dropLast
    if braces.getLast? ≠ some '}' then
      .error (cited whole ++ ": '\x7d' is required in repeat count")
    else if inside = ['*'] then pure ⟨text, border, none⟩
    else
      match (String.ofList inside).toNat? with
      | some n => pure ⟨text, border, some n⟩
      | none =>
        .error (cited (String.ofList braces.dropLast) ++
          "\x7d: integer required between '\x7b' and '\x7d'")

/-- The borders that arguments mean. -/
def bordersOf (args : List String) : Except String (List BorderUse) :=
  (withRepeats args).mapM fun (text, again) => borderUse text again

/-- What has been cut so far: the pieces, the last one first, the number of lines that are in them,
and the place from which the next border is looked for. -/
structure Cuts where
  pieces : List (List (List Char)) := []
  place : Nat := 0
  searched : Nat := 0

/-- The lines of a text that are cut, and whether the line at a border is dropped. -/
structure CutText where
  lines : Array (List Char)
  dropsBorders : Bool

/-- Cuts up to one border. `again` is the number of the repetition. -/
def Cuts.step (t : CutText) (use : BorderUse) (again : Nat) (c : Cuts) :
    Except (String × Cuts) Cuts :=
  let behind := if again = 0 then "" else " on repetition " ++ toString again
  let upTo := fun (stop : Nat) => (t.lines.extract c.place stop).toList
  let next := fun (stop : Nat) => if t.dropsBorders then stop + 1 else stop
  match use.border with
  | .line n =>
    let stop := n * (again + 1) - 1
    if t.lines.size ≤ stop && !(t.dropsBorders && t.lines.size = stop) then
      .error (cited use.text ++ ": line number out of range" ++ behind,
        { c with pieces := upTo t.lines.size :: c.pieces, place := t.lines.size })
    else .ok ⟨upTo stop :: c.pieces, next stop, stop⟩
  | .found drops regex offset =>
    let found := ((List.range t.lines.size).drop (max c.place c.searched)).find? fun i =>
      regex.occursIn (t.lines.getD i []).toArray
    match found with
    | none =>
      let rest := if drops then c.pieces else upTo t.lines.size :: c.pieces
      .error (cited use.text ++ ": match not found" ++ behind,
        { c with pieces := rest, place := t.lines.size })
    | some i =>
      let stop := (i : Int) + offset
      if stop < c.place || (t.lines.size : Int) < stop then
        .error (cited use.text ++ ": line number out of range" ++ behind, c)
      else
        let pieces := if drops then c.pieces else upTo stop.toNat :: c.pieces
        .ok ⟨pieces, next stop.toNat, max i stop.toNat + 1⟩

/-- Cuts at one border as often as it is used. A border that is used as long as it is there ends
without a complaint. -/
def Cuts.stepAgain (t : CutText) (use : BorderUse) : Nat → Nat → Cuts → Except (String × Cuts) Cuts
  | 0, _, c => .ok c
  | fuel + 1, again, c =>
    match use.again with
    | some n =>
      if n < again then .ok c
      else do
        let c ← c.step t use again
        stepAgain t use fuel (again + 1) c
    | none =>
      match c.step t use again, use.border with
      | .ok c, _ => stepAgain t use fuel (again + 1) c
      | .error _, .found .. => .ok c
      | .error fault, .line _ => .error fault

/-- Cuts a text at borders. -/
def Cuts.run (t : CutText) : List BorderUse → Cuts → Except (String × Cuts) Cuts
  | [], c => .ok c
  | use :: rest, c => do
    let c ← c.stepAgain t use (t.lines.size + (use.again.getD 0) + 2) 0
    run t rest c

/-- The first border that stands before the one before it, or beside it. -/
def unordered (before : Nat) : List BorderUse → Option (Nat × Nat)
  | [] => none
  | use :: rest =>
    match use.border with
    | .line n => if n ≤ before then some (n, before) else unordered n rest
    | .found .. => unordered before rest

/-- Writes the pieces of a file between borders to files of their own. -/
def csplit (args : List String) : Act Unit := do
  let f ← options {
    letters := "b:f:kn:sqz"
    names := [("suffix-format", 'b', .value), ("prefix", 'f', .value),
      ("keep-files", 'k', .nothing), ("digits", 'n', .value), ("quiet", 's', .nothing),
      ("silent", 's', .nothing), ("suppress-matched", 'm', .nothing),
      ("elide-empty-files", 'z', .nothing)] } args
  let digits ← match f.value? 'n' with
    | none => pure 2
    | some text =>
      match text.toNat? with
      | some n => pure n
      | none => fail ("invalid number: " ++ cited text)
  match f.operands with
  | [] => misuse "missing operand"
  | [operand] => misuse ("missing operand after " ++ cited operand)
  | operand :: borders =>
    let text ← match ← content operand with
      | .error .isDirectory => fail ("read error: " ++ FileError.isDirectory.reason)
      | .error .notOpen => fail ("read error: " ++ FileError.notOpen.reason)
      | .error e => fail ("cannot open " ++ inQuotes operand ++ " for reading: " ++ e.reason)
      | .ok text => pure text
    let uses ← match bordersOf borders with
      | .ok uses => pure uses
      | .error words => fail words
    match unordered 0 uses with
    | none => pure ()
    | some (n, before) =>
      if n = before then
        complain ("warning: line number " ++ cited (toString n) ++
          " is the same as preceding line number")
      else
        fail ("line number " ++ cited (toString n) ++ " is smaller than preceding line number, " ++
          toString before)
    let (whole, last) := Text.linesOf '\n' text
    let lines := whole.map (· ++ ['\n']) ++ (if last.isEmpty then [] else [last])
    let t : CutText := ⟨lines.toArray, f.has 'm'⟩
    let (c, fault) := match Cuts.run t uses {} with
      | .ok c =>
        let last := (t.lines.extract c.place t.lines.size).toList
        ({ c with pieces := last :: c.pieces }, none)
      | .error (words, c) => (c, some words)
    let pieces := c.pieces.reverse.map List.flatten
    let pieces := if f.has 'z' then pieces.filter (!·.isEmpty) else pieces
    let name := fun (n : Nat) =>
      let number := toString n
      (f.value? 'f').getD "xx" ++ (match f.value? 'b' with
        | some form =>
          String.ofList (Format.outputOf (Format.print .tool form [number]).1)
        | none => String.ofList (List.replicate (digits - number.length) '0') ++ number)
    forAll pieces.zipIdx fun (piece, n) => do
      match ← save (name n) piece with
      | .ok () => pure ()
      | .error e => fail (shown (name n) ++ ": " ++ e.reason)
      if fault.isSome && !f.has 'k' then
        modify fun s => { s with files := match s.files.resolve s.folder (name n) with
          | .ok path => s.files.erase path
          | .error _ => s.files }
      if !f.has 's' && !f.has 'q' then writeLines [toString piece.length]
    match fault with
    | some words => fail words
    | none => pure ()

/-- A change of a size: a new one, or one that depends on the old one. -/
def resized (change : Option Char) (amount old : Nat) : Nat :=
  match change with
  | none => amount
  | some '+' => old + amount
  | some '-' => old - amount
  | some '<' => min old amount
  | some '>' => max old amount
  | some '/' => old / amount * amount
  | some _ => (old + amount - 1) / amount * amount

/-- Makes files shorter or longer. -/
def truncate (args : List String) : Act Unit := do
  let f ← options {
    letters := "cor:s:"
    names := [("no-create", 'c', .nothing), ("io-blocks", 'o', .nothing),
      ("reference", 'r', .value), ("size", 's', .value)] } args
  let text := ((f.value? 's').getD "").toList.dropWhile (· = ' ')
  let change := text.head?.filter fun c => "+-<>/%".toList.contains c
  let digits := String.ofList (text.drop (if change.isSome then 1 else 0))
  let amount ← match f.value? 's' with
    | none => pure 0
    | some whole =>
      match size? digits with
      | some 0 =>
        if change = some '/' || change = some '%' then fail "division by zero" else pure 0
      | some n => pure n
      | none => fail ("Invalid number: " ++ cited whole)
  if !f.has 's' && !f.has 'r' then
    misuse "you must specify either '--size' or '--reference'"
  if f.has 's' && f.has 'r' && change.isNone then
    misuse "you must specify a relative '--size' with '--reference'"
  if f.operands.isEmpty then misuse "missing file operand"
  let base ← match f.value? 'r' with
    | none => pure none
    | some name =>
      match (← get).facts name with
      | .ok facts => pure (some facts.size)
      | .error e => fail ("cannot stat " ++ inQuotes name ++ ": " ++ e.reason)
  forAll f.operands fun name => do
    let s ← get
    let old := (s.files.read s.folder name).toOption
    if !(f.has 'c' && old.isNone && !s.files.exists? s.folder name) then
      let text := Text.ofContent (old.getD .empty)
      let size := if f.has 's' then
          resized change (if f.has 'o' then amount * 4096 else amount) (base.getD text.length)
        else base.getD 0
      match ← save name (text.take size ++ List.replicate (size - text.length) '\x00') with
      | .ok () => pure ()
      | .error e => deplore ("cannot open " ++ inQuotes name ++ " for writing: " ++ e.reason)

/-- A number of a copy by blocks: factors with units, joined by the letter x. -/
def blockNumber? (text : String) : Option Nat := do
  let factors ← (Text.pieces ['x'] text.toList).mapM fun digits => do
    let (n, rest) ← leadingNumber digits
    let factor ← match rest with
      | ['c'] | ['B'] => some 1
      | ['w'] => some 2
      | rest => unit? (String.ofList rest)
    some (n * factor)
  some (factors.foldl (· * ·) 1)

/-- What a copy by blocks has been told to do. -/
structure BlockCopy where
  source : Option String := none
  target : Option String := none
  readSize : Nat := 512
  writeSize : Nat := 512
  recordSize : Nat := 0
  count : Option Nat := none
  skipped : Nat := 0
  sought : Nat := 0
  /-- The count, what is skipped and what is sought are numbers of bytes. -/
  countBytes : Bool := false
  skipBytes : Bool := false
  seekBytes : Bool := false
  conversions : List String := []
  appends : Bool := false
  report : String := ""

/-- The conversions of a copy by blocks. -/
def conversionNames : List String :=
  ["ascii", "ebcdic", "ibm", "block", "unblock", "lcase", "ucase", "sparse", "swab", "sync", "excl",
    "nocreat", "notrunc", "noerror", "fdatasync", "fsync"]

/-- The flags of a copy by blocks. -/
def flagNames : List String :=
  ["append", "direct", "directory", "dsync", "sync", "fullblock", "nonblock", "noatime", "nocache",
    "noctty", "nofollow", "count_bytes", "skip_bytes", "seek_bytes"]

/-- Takes an operand of a copy by blocks in, or gives the words of its refusal. -/
def BlockCopy.add (b : BlockCopy) (operand : String) : Except (String × Bool) BlockCopy := do
  let bad := fun (words value : String) => Except.error (words ++ ": " ++ cited value, true)
  match Text.cutAt '=' operand.toList with
  | none => .error ("unrecognized operand " ++ cited operand, true)
  | some (name, value) =>
    let value := String.ofList value
    let number := fun (least : Nat) =>
      match blockNumber? value with
      | some n =>
        if n < least then Except.error ("invalid number: " ++ cited value, false) else .ok n
      | none => .error ("invalid number: " ++ cited value, false)
    let names := (Text.pieces [','] value.toList).map String.ofList
    let inBytes := value.toList.getLast? = some 'B'
    match String.ofList name with
    | "if" => .ok { b with source := some value }
    | "of" => .ok { b with target := some value }
    | "ibs" => do pure { b with readSize := ← number 1 }
    | "obs" => do pure { b with writeSize := ← number 1 }
    | "bs" => do
      let n ← number 1
      pure { b with readSize := n, writeSize := n }
    | "cbs" => do pure { b with recordSize := ← number 1 }
    | "count" => do
      pure { b with count := some (← number 0), countBytes := b.countBytes || inBytes }
    | "skip" | "iseek" => do
      pure { b with skipped := ← number 0, skipBytes := b.skipBytes || inBytes }
    | "seek" | "oseek" => do
      pure { b with sought := ← number 0, seekBytes := b.seekBytes || inBytes }
    | "conv" =>
      match names.find? (!conversionNames.contains ·) with
      | some name => bad "invalid conversion" name
      | none => .ok { b with conversions := b.conversions ++ names }
    | "iflag" =>
      match names.find? (!flagNames.contains ·) with
      | some name => bad "invalid input flag" name
      | none =>
        .ok { b with
          countBytes := b.countBytes || names.contains "count_bytes"
          skipBytes := b.skipBytes || names.contains "skip_bytes" }
    | "oflag" =>
      match names.find? (!flagNames.contains ·) with
      | some name => bad "invalid output flag" name
      | none =>
        .ok { b with
          seekBytes := b.seekBytes || names.contains "seek_bytes"
          appends := b.appends || names.contains "append" }
    | "status" =>
      if ["none", "noxfer", "progress"].contains value then .ok { b with report := value }
      else bad "invalid status level" value
    | _ => .error ("unrecognized operand " ++ cited operand, true)

/-- A block with each two bytes exchanged. -/
def swapped : List Char → List Char
  | a :: b :: rest => b :: a :: swapped rest
  | rest => rest

/-- The text as a copy by blocks converts it. -/
def BlockCopy.converted (b : BlockCopy) (text : List Char) : List Char :=
  let does := fun (name : String) => b.conversions.contains name
  let blocks := chunks b.readSize (text.length + 1) text
  let filler := if does "block" || does "unblock" then ' ' else '\x00'
  let blocks := if does "sync" then
      blocks.map fun block => block ++ List.replicate (b.readSize - block.length) filler
    else blocks
  let blocks := if does "swab" then blocks.map swapped else blocks
  let text := blocks.flatten
  let text := if does "lcase" then text.map Char.toLower
    else if does "ucase" then text.map Char.toUpper
    else text
  if does "block" && b.recordSize ≠ 0 then
    (Text.allLines text).flatMap fun line =>
      line.take b.recordSize ++ List.replicate (b.recordSize - line.length) ' '
  else if does "unblock" && b.recordSize ≠ 0 then
    (chunks b.recordSize (text.length + 1) text).flatMap fun record =>
      (record.reverse.dropWhile (· = ' ')).reverse ++ ['\n']
  else text

/-- The input of a copy by blocks after what is skipped, of which no more is taken away than is
copied. -/
def BlockCopy.input (b : BlockCopy) : Act (List Char) := do
  let skipped := if b.skipBytes then b.skipped else b.skipped * b.readSize
  let most := b.count.map fun n => if b.countBytes then n else n * b.readSize
  let part := fun (text : List Char) =>
    let text := text.drop skipped
    match most with
    | some n => text.take n
    | none => text
  let complainEnd := fun (name : String) (text : List Char) => do
    if text.length < skipped && b.report ≠ "none" then
      complain (inQuotes name ++ ": cannot skip to specified offset")
  match b.source with
  | some "/dev/zero" => pure (List.replicate (most.getD endless) '\x00')
  | some name =>
    match ← content name with
    | .error .isDirectory => do
      complain ("error reading " ++ inQuotes name ++ ": " ++ FileError.isDirectory.reason)
      finish 1
      pure []
    | .error e => fail ("failed to open " ++ inQuotes name ++ ": " ++ e.reason)
    | .ok text =>
      complainEnd name text
      pure (part text)
  | none =>
    let s ← get
    match s.channel? 0 with
    | none =>
      complain "error reading 'standard input': Bad file descriptor"
      fail "closing input file 'standard input': Bad file descriptor"
    | some (_, .folder) =>
      fail ("error reading 'standard input': " ++ FileError.isDirectory.reason)
    | some (_, channel) =>
      let text := channel.rest s.files
      complainEnd "standard input" text
      let taken := part text
      modify fun s => s.advance 0 (min text.length (skipped + taken.length))
      pure taken

/-- The number of whole blocks and of parts of blocks that a text fills, as a copy tells them. -/
def blockCounts (size : Nat) (text : List Char) : String :=
  toString (text.length / size) ++ "+" ++ (if text.length % size = 0 then "0" else "1")

/-- Copies a part of a file by blocks, and tells how much that is. -/
def dd (args : List String) : Act Unit := do
  let f ← options { letters := "" } args
  let b ← match f.operands.foldlM BlockCopy.add {} with
    | .ok b => pure b
    | .error (words, hints) => if hints then misuse words else fail words
  let does := fun (name : String) => b.conversions.contains name
  if does "lcase" && does "ucase" then fail "cannot combine lcase and ucase"
  if does "block" && does "unblock" then fail "cannot combine block and unblock"
  if does "excl" && does "nocreat" then fail "cannot combine excl and nocreat"
  let s ← get
  let openFault := fun (name : String) (e : FileError) =>
    fail ("failed to open " ++ inQuotes name ++ ": " ++ e.reason)
  match b.source with
  | some name =>
    match s.openToRead name with
    | .error e => openFault name e
    | .ok _ => pure ()
  | none => pure ()
  match b.target with
  | some name =>
    if does "excl" && s.files.exists? s.folder name then openFault name .alreadyExists
    if does "nocreat" && !s.files.exists? s.folder name then openFault name .notFound
    match s.openToWrite name .append with
    | .error e => openFault name e
    | .ok _ => pure ()
  | none => pure ()
  let text ← b.input
  let changed := b.converted text
  match b.target with
  | none => write changed
  | some name =>
    let place := if b.seekBytes then b.sought else b.sought * b.writeSize
    let saved ← match (← get).files.read s.folder name with
      | .ok old =>
        if b.appends then save name changed .append
        else
          let kept := if does "notrunc" then old else old.extract 0 place
          save name (Text.ofContent (overwritten kept place changed))
      | .error _ => save name (List.replicate place '\x00' ++ changed)
    match saved with
    | .ok () => pure ()
    | .error e => openFault name e
  if b.report ≠ "none" then
    warn (blockCounts b.readSize text ++ " records in\n" ++ blockCounts b.writeSize changed ++
      " records out\n")
    if b.report ≠ "noxfer" then
      let size := changed.length
      let units := if size < 1000 then ""
        else " (" ++ toString (size / 1000) ++ " kB, " ++ toString (size / 1024) ++ " KiB)"
      let noun := if size = 1 then " byte" else " bytes"
      warn (toString size ++ noun ++ units ++ " copied, 0.0001 s, " ++
        toString (size * 10) ++ " kB/s\n")

end RemoteAttach.Tool
