import RemoteAttach.Tool.Basic

/-! Programs that work on the columns of lines, and on lines beside each other: they cut, fold and
join them, or tell which of them are alike. -/

namespace RemoteAttach.Tool

open Shell Act

/-- A range of columns, of which the end may be open. -/
abbrev Range := Nat × Option Nat

/-- The kind of columns in the words of a complaint. -/
structure ColumnWords where
  fields : Bool

/-- The complaint about a value that is no column. -/
def ColumnWords.invalid (w : ColumnWords) (text : String) : String :=
  (if w.fields then "invalid field value " else "invalid byte/character position ") ++ cited text

/-- The complaint about the column zero. -/
def ColumnWords.zero (w : ColumnWords) : String :=
  if w.fields then "fields are numbered from 1" else "byte/character positions are numbered from 1"

/-- The complaint about a range that is none. -/
def ColumnWords.badRange (w : ColumnWords) : String :=
  if w.fields then "invalid field range" else "invalid byte or character range"

/-- The complaint about a number that is too large. -/
def ColumnWords.tooLarge (w : ColumnWords) (digits : List Char) : String :=
  (if w.fields then "field number " else "byte/character offset ") ++
    cited (String.ofList digits) ++ " is too large"

/-- What has been read of a list of ranges. -/
structure RangeReading where
  /-- The ranges, the last one first. -/
  done : List Range := []
  /-- Where a range starts, once the hyphen behind that has been read. -/
  start? : Option Nat := none
  /-- The digits of the number that has begun, the last one first. -/
  digits : List Char := []
  /-- A number stands before the hyphen. -/
  hasStart : Bool := false

namespace RangeReading

/-- The number that has been read, which is zero if there is none. -/
def value (r : RangeReading) : Nat :=
  (Text.digitsAfter 10 0 r.digits.reverse).getD 0

/-- Ends a range. -/
def close (w : ColumnWords) (r : RangeReading) : Except String RangeReading :=
  match r.start? with
  | none => if r.value = 0 then .error w.zero else .ok { done := (r.value, some r.value) :: r.done }
  | some start =>
    if r.digits.isEmpty then
      if r.hasStart then .ok { done := (start, none) :: r.done }
      else .error "invalid range with no endpoint: -"
    else if r.value < start then .error "invalid decreasing range"
    else .ok { done := (start, some r.value) :: r.done }

/-- Reads ranges. -/
def run (w : ColumnWords) (r : RangeReading) : List Char → Except String RangeReading
  | [] => r.close w
  | c :: rest =>
    if c = '-' then
      if r.start?.isSome then .error w.badRange
      else if r.digits.isEmpty then run w { r with start? := some 1 } rest
      else if r.value = 0 then .error w.zero
      else run w { r with start? := some r.value, digits := [], hasStart := true } rest
    else if c = ',' || c = ' ' || c = '\t' then do run w (← r.close w) rest
    else if c.isDigit then
      let r := { r with digits := c :: r.digits }
      if r.value < 18446744073709551615 then run w r rest
      else .error (w.tooLarge (r.digits.reverse ++ rest.takeWhile Char.isDigit))
    else .error (w.invalid (String.ofList (c :: rest)))

end RangeReading

/-- Ranges by their starts, of which those that overlap become one. -/
def mergedRanges (all : List Range) : List Range :=
  let sorted := all.mergeSort fun a b => a.1 ≤ b.1
  (sorted.foldl (fun done range =>
    match done with
    | (start, stop) :: others =>
      if stop.all (range.1 ≤ ·) then
        let stop := match stop, range.2 with
          | some a, some b => some (max a b)
          | _, _ => none
        (start, stop) :: others
      else range :: done
    | [] => [range]) []).reverse

/-- The ranges of the columns from one on that are in none of some merged ranges. -/
def rangesOutside (start : Nat) : List Range → List Range
  | [] => [(start, none)]
  | (first, stop) :: rest =>
    let gap := if start < first then [(start, some (first - 1))] else []
    match stop with
    | some stop => gap ++ rangesOutside (stop + 1) rest
    | none => gap

/-- Ranges of columns between commas or blanks. -/
def ranges (w : ColumnWords) (text : String) : Except String (List Range) := do
  let r ← RangeReading.run w {} text.toList
  pure (mergedRanges r.done.reverse)

/-- A column is in one of some ranges. -/
def inRanges (all : List Range) (n : Nat) : Bool :=
  all.any fun (a, b) => a ≤ n && b.all (n ≤ ·)

/-- The characters of a line that are in some ranges, with a text between the ranges. -/
def charsWithin (all : List Range) (between line : List Char) : List Char :=
  let kept := (line.zipIdx 1).filter fun (_, n) => inRanges all n
  (kept.zipIdx.flatMap fun ((c, n), index) =>
    if index ≠ 0 && all.any fun range => range.1 = n then between ++ [c] else [c])

/-- Writes columns of lines. -/
def cut (args : List String) : Act Unit := do
  let (f, fault) ← optionsSoFar {
    letters := "b:c:d:f:nsz"
    names := [("bytes", 'b', .value), ("characters", 'c', .value), ("delimiter", 'd', .value),
      ("fields", 'f', .value), ("only-delimited", 's', .nothing),
      ("complement", 'C', .nothing), ("output-delimiter", 'o', .value),
      ("zero-terminated", 'z', .nothing)] } args
  let isList := fun (c : Char) => c = 'b' || c = 'c' || c = 'f'
  let lists ← f.options.foldlM (fun lists (c, text) => do
    if c = 'd' && 1 < text.length then misuse "the delimiter must be a single character"
    if isList c && !lists.isEmpty then misuse "only one list may be specified"
    pure (if isList c then (c, text) :: lists else lists)) []
  if let some text := fault then misuse text
  let mark := if f.has 'z' then '\x00' else '\n'
  match lists with
  | [] => misuse "you must specify a list of bytes, characters, or fields"
  | (letter, text) :: _ =>
    let fields := letter = 'f'
    if !fields && f.has 'd' then
      misuse "an input delimiter may be specified only when operating on fields"
    if !fields && f.has 's' then
      misuse ("suppressing non-delimited lines makes sense\n\tonly when operating on fields")
    match ranges ⟨fields⟩ text with
    | .error text => misuse text
    | .ok all =>
      let all := if f.has 'C' then rangesOutside 1 all else all
      let delimiter := ((f.value? 'd').map fun text => text.toList.headD '\x00').getD '\t'
      let between := ((f.value? 'o').map fun text =>
        if text.isEmpty then ['\x00'] else text.toList).getD (if fields then [delimiter] else [])
      let cutFields := fun (line : List Char) =>
        let parts := Text.pieces [delimiter] line
        if parts.length = 1 then if f.has 's' then [] else line ++ [mark]
        else
          let kept := (parts.zipIdx 1).filter fun (_, n) => inRanges all n
          List.intercalate between (kept.map (·.1)) ++ [mark]
      forAll (orInput f.operands) fun operand => do
        match ← content operand with
        | .error e => deploreFile operand e
        | .ok text =>
          let lines := Text.allLines text mark
          write (lines.flatMap fun line =>
            if fields then cutFields line else charsWithin all between line ++ [mark])
      closeInput "-" (orInput f.operands)

/-- The characters between which lines are joined, with their escapes read, unless the last one is
a lone backslash. -/
def delimiters? : List Char → Option (List (List Char))
  | ['\\'] => none
  | '\\' :: c :: rest =>
    let meaning := match c with
      | '0' => []
      | 'b' => ['\x08']
      | 'f' => ['\x0c']
      | 'n' => ['\n']
      | 'r' => ['\r']
      | 't' => ['\t']
      | 'v' => ['\x0b']
      | c => [c]
    (delimiters? rest).map (meaning :: ·)
  | c :: rest => (delimiters? rest).map ([c] :: ·)
  | [] => some []

/-- Texts with delimiters between them, which are taken in turn. -/
def joinedBy (delimiters : Array (List Char)) (texts : List (List Char)) : List Char :=
  (texts.zipIdx.map fun (text, n) =>
    if n = 0 then text else (delimiters[(n - 1) % delimiters.size]?).getD [] ++ text).flatten

/-- The lines of files beside each other, as long as one of them has one. -/
def besides (delimiters : Array (List Char)) : Nat → List (List (List Char)) → List (List Char)
  | 0, _ => []
  | fuel + 1, files =>
    if files.all List.isEmpty then []
    else
      joinedBy delimiters (files.map fun lines => lines.headD []) ::
        besides delimiters fuel (files.map (List.drop 1))

/-- Every line of a list whose number leaves a remainder. -/
def everyNth (count start : Nat) (lines : List (List Char)) : List (List Char) :=
  (lines.zipIdx.filter fun (_, n) => n % count = start).map (·.1)

/-- Joins the lines of files beside each other, or those of a file to one. -/
def paste (args : List String) : Act Unit := do
  let f ← options {
    letters := "d:sz"
    names := [("delimiters", 'd', .value), ("serial", 's', .nothing),
      ("zero-terminated", 'z', .nothing)] } args
  let mark := if f.has 'z' then '\x00' else '\n'
  let text := (f.value? 'd').getD "\t"
  let between ← match delimiters? text.toList with
    | some [] => pure #[[]]
    | some all => pure all.toArray
    | none => fail ("delimiter list ends with an unescaped backslash: " ++ text)
  let operands := orInput f.operands
  if f.has 's' then
    forAll operands fun operand => do
      match ← content operand with
      | .error e =>
        if e = .isDirectory then write [mark]
        deploreFile operand e
      | .ok text => write (joinedBy between (Text.allLines text mark) ++ [mark])
  else
    let inputs := (operands.filter (· = "-")).length
    if inputs ≠ 0 && (← isInputClosed) then
      if 1 < operands.length then fail "standard input is closed"
      deplore ("-: " ++ FileError.notOpen.reason)
    let input ← if inputs = 0 then pure []
      else match ← content "-" with
        | .ok text => pure (Text.allLines text mark)
        | .error _ => pure []
    let (files, _) ← operands.foldlM (fun (files, nth) operand => do
      if operand = "-" then pure (files ++ [everyNth inputs nth input], nth + 1)
      else
        match ← content operand with
        | .error .isDirectory =>
          deploreFile operand .isDirectory
          pure (files ++ [[]], nth)
        | .error e => fail (shown operand ++ ": " ++ e.reason)
        | .ok text => pure (files ++ [Text.allLines text mark], nth))
      (([] : List (List (List Char))), 0)
    let most := (files.map List.length).foldl max 0
    write (Text.ofLines (besides between most files) mark)
  closeInput "-" operands

/-- The column after a character. -/
def columnAfter (bytes : Bool) (column : Nat) (c : Char) : Nat :=
  if bytes then column + 1
  else if c = '\x08' then column - 1
  else if c = '\r' then 0
  else if c = '\t' then column / 8 * 8 + 8
  else column + 1

/-- A line cut to a width. `here` holds the piece that is being read, the last character first. -/
def folded (width : Nat) (bytes blanks : Bool) :
    List (List Char) → List Char → Nat → List Char → List (List Char)
  | done, here, _, [] => (if here.isEmpty then done else here.reverse :: done).reverse
  | done, here, column, c :: rest =>
    let next := columnAfter bytes column c
    if width < next && !here.isEmpty then
      let kept := here.takeWhile fun c => c ≠ ' ' && c ≠ '\t'
      if blanks && kept.length < here.length then
        let piece := (here.drop kept.length).reverse
        let column := kept.reverse.foldl (columnAfter bytes) 0
        folded width bytes blanks (piece :: done) (c :: kept) (columnAfter bytes column c) rest
      else folded width bytes blanks (here.reverse :: done) [c] (columnAfter bytes 0 c) rest
    else folded width bytes blanks done (c :: here) next rest

/-- Cuts lines to a width. -/
def fold (args : List String) : Act Unit := do
  let (f, fault) ← optionsSoFar {
    letters := "bsw:" ++ String.join ((List.range 10).map fun digit => toString digit ++ "::")
    names := [("bytes", 'b', .nothing), ("spaces", 's', .nothing), ("width", 'w', .value)] } args
  let width ← f.options.foldlM (fun width (c, text) => do
    if c = 'w' then countOf "invalid number of columns" 1 text
    else if c.isDigit then countOf "invalid number of columns" 1 (c.toString ++ text)
    else pure width) 80
  if let some text := fault then misuse text
  forAll (orInput f.operands) fun operand => do
    match ← content operand with
    | .error e => deploreFile operand e
    | .ok text =>
      let (lines, last) := Text.linesOf '\n' text
      let cut := fun (line : List Char) =>
        List.intercalate ['\n'] (folded width (f.has 'b') (f.has 's') [] [] 0 line)
      write (Text.ofLines (lines.map cut) ++ cut last)
  closeInput "-" (orInput f.operands)

/-- A text without its first fields and characters. -/
def behind (fields chars : Nat) (line : List Char) : List Char :=
  let isBlank := fun c => c = ' ' || c = '\t'
  let rest := (List.range fields).foldl (fun rest _ =>
    (rest.dropWhile isBlank).dropWhile fun c => !isBlank c) line
  rest.drop chars

/-- Runs of lines that are alike. -/
def runsOf (same : List Char → List Char → Bool) : List (List Char) → List (List (List Char))
  | [] => []
  | line :: rest =>
    match runsOf same rest with
    | (first :: run) :: others =>
      if same line first then (line :: first :: run) :: others
      else [line] :: (first :: run) :: others
    | others => [line] :: others

/-- Where groups of lines are set apart. -/
structure Gaps where
  /-- A gap stands before each group. -/
  before : Bool
  /-- A gap stands before each group but the first. -/
  between : Bool
  /-- A gap stands after the last group. -/
  after : Bool

/-- Groups of lines with gaps. -/
def gapped (g : Gaps) (mark : Char) (groups : List (List (List Char))) : List Char :=
  let texts := groups.zipIdx.map fun (group, n) =>
    (if g.before || (g.between && n ≠ 0) then [mark] else []) ++ Text.ofLines group mark
  texts.flatten ++ (if g.after && !groups.isEmpty then [mark] else [])

/-- What is written of the runs of lines that are alike. -/
structure UniqForm where
  single : Bool := true
  /-- One line stands for a run of several. -/
  one : Bool := true
  /-- All lines of a run of several are written. -/
  all : Bool := false
  counted : Bool := false

/-- What is written of a run of lines. -/
def UniqForm.shape (form : UniqForm) (run : List (List Char)) : List (List Char) :=
  let kept := if run.length ≤ 1 then if form.single then run else []
    else if form.all then if form.one then run else run.dropLast
    else if form.one then run.take 1
    else []
  if form.counted then
    kept.map fun line => (padLeft 7 (toString run.length)).toList ++ ' ' :: line
  else kept

/-- Writes one of each run of lines that are alike. -/
def uniq (args : List String) : Act Unit := do
  let f ← options {
    letters := "0123456789cdDiuzf:s:w:"
    names := [("count", 'c', .nothing), ("repeated", 'd', .nothing),
      ("all-repeated", 'D', .perhaps), ("group", 'g', .perhaps), ("ignore-case", 'i', .nothing),
      ("unique", 'u', .nothing), ("skip-fields", 'f', .value), ("skip-chars", 's', .value),
      ("check-chars", 'w', .value), ("zero-terminated", 'z', .nothing)] } args
  let number := fun (text words : String) =>
    match Text.digitsAfter 10 0 (text.toList.dropWhile fun c => c = ' ' || c = '+') with
    | some n => pure n
    | none => (fail (text ++ ": invalid number of " ++ words) : Act Nat)
  let skip := fun (fields : Bool × Nat) (option : Char × String) => do
    match option with
    | ('f', text) => pure (true, ← number text "fields to skip")
    | (c, _) =>
      if c.isDigit then
        pure (false, (if fields.1 then 0 else fields.2) * 10 + (c.toNat - '0'.toNat))
      else pure fields
  let (_, fields) ← f.options.foldlM skip (false, 0)
  let chars ← (f.values 's').foldlM (fun _ text => number text "bytes to skip") 0
  let most ← (f.values 'w').foldlM (fun _ text => do
    pure (some (← number text "bytes to compare"))) none
  let method := fun (c : Char) (title : String) (methods : List String) (usual : Nat) => do
    match f.value? c with
    | none => pure none
    | some "" => pure (some usual)
    | some text => pure (some (← choose title (methods.map fun name => [name]) text))
  let apart ← method 'D' "--all-repeated" ["none", "prepend", "separate"] 0
  let grouping ← method 'g' "--group" ["prepend", "append", "separate", "both"] 2
  let isOffset := fun (operand : String) =>
    operand.startsWith "+" && 1 < operand.length && (operand.drop 1).all Char.isDigit
  let chars ← (f.operands.filter isOffset).foldlM (fun _ text => number text "bytes to skip") chars
  match f.operands.filter (!isOffset ·) with
  | _ :: _ :: extra :: _ => misuse ("extra operand " ++ cited extra)
  | operands =>
    if grouping.isSome && (f.last? ['c', 'd', 'D', 'u']).isSome then
      misuse "--group is mutually exclusive with -c/-d/-D/-u"
    if f.has 'c' && f.has 'D' then
      misuse "printing all duplicated lines and repeat counts is meaningless"
    let key := fun (line : List Char) =>
      let rest := behind fields chars line
      let rest := match most with
        | some n => rest.take n
        | none => rest
      if f.has 'i' then rest.map Char.toUpper else rest
    let source := operands.headD "-"
    match ← content source with
    | .error .isDirectory => unreadable source .isDirectory
    | .error .notOpen => unreadable source .notOpen
    | .error e => deploreFile source e
    | .ok text =>
      let mark := if f.has 'z' then '\x00' else '\n'
      let runs := runsOf (fun a b => key a = key b) (Text.allLines text mark)
      let form : UniqForm := {
        single := !f.has 'd' && !f.has 'D'
        one := !f.has 'u'
        all := f.has 'D'
        counted := f.has 'c' }
      let output := match grouping, apart with
        | some n, _ => gapped ⟨n = 0 || n = 3, true, n = 1 || n = 3⟩ mark runs
        | none, some n =>
          gapped ⟨n = 1, n = 2, false⟩ mark
            ((runs.filter fun run => 1 < run.length).map form.shape)
        | none, none => Text.ofLines (runs.flatMap form.shape) mark
      match operands with
      | [_, target] =>
        let s ← get
        match s.openToWrite target .forced with
        | .error e => deploreFile target e
        | .ok (files, opened) =>
          set ({ s with files }.attach 100 opened)
          emit 100 output
          modify fun after => { after with streams := s.streams }
      | _ => write output
where
  /-- Complains of an input that is no text. -/
  unreadable (source : String) (e : FileError) : Act Unit :=
    deplore ("error reading " ++ inQuotes source ++ ": " ++ e.reason)

end RemoteAttach.Tool
