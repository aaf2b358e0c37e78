import RemoteAttach.Text.Regex.Reader
import RemoteAttach.Tool.Basic

/-! Programs that join, turn round and count the lines of files. -/

namespace RemoteAttach.Tool

open Shell Act

/-- How lines are joined and shown. -/
structure CatForm where
  numbers : Bool := false
  /-- Empty lines have no numbers. -/
  filled : Bool := false
  squeezes : Bool := false
  showsEnds : Bool := false
  showsTabs : Bool := false
  showsOthers : Bool := false

/-- What is known while lines are joined. -/
structure CatState where
  line : Nat := 1
  atStart : Bool := true
  /-- The number of empty lines that have just been passed. -/
  empty : Nat := 0
  /-- A character has been kept back that may belong to a line end. -/
  pending : Bool := false

namespace CatForm

/-- A character that may not be printed, as it is shown. -/
def shown (c : Char) : List Char :=
  let low := fun (n : Nat) =>
    if n < 32 then ['^', Char.ofNat (n + 64)]
    else if n = 127 then ['^', '?']
    else [Char.ofNat n]
  if c.toNat < 128 then low c.toNat else 'M' :: '-' :: low (c.toNat - 128)

/-- The text of a line number. -/
def numberText (n : Nat) : List Char :=
  (padLeft 6 (toString n)).toList ++ ['\t']

/-- Adds the shown form of a text to what has been written, the last character first. -/
def run (f : CatForm) : List Char → CatState → List Char → List Char × CatState
  | done, st, [] => (done, st)
  | done, st, c :: rest =>
    if c = '\n' then
      let empty := st.atStart
      if empty && f.squeezes && 0 < st.empty then f.run done st rest
      else
        let counted := empty && f.numbers && !f.filled
        let done := if counted then (numberText st.line).reverse ++ done else done
        let done := if f.showsEnds then '\n' :: '$' :: done else '\n' :: done
        f.run done { st with
          line := if counted then st.line + 1 else st.line
          atStart := true
          empty := if empty then st.empty + 1 else 0 } rest
    else
      let counted := st.atStart && f.numbers
      let done := if counted then (numberText st.line).reverse ++ done else done
      let here :=
        if c = '\t' then if f.showsTabs then ['^', 'I'] else [c]
        else if f.showsOthers then shown c
        else if c = '\r' && f.showsEnds && rest.head? = some '\n' then ['^', 'M']
        else [c]
      f.run (here.reverse ++ done) { st with
        line := if counted then st.line + 1 else st.line, atStart := false, empty := 0 } rest

end CatForm

/-- Joins files. -/
def cat (args : List String) : Act Unit := do
  let f ← options {
    letters := "benstuvAET"
    names := [("number-nonblank", 'b', .nothing), ("number", 'n', .nothing),
      ("squeeze-blank", 's', .nothing), ("show-nonprinting", 'v', .nothing),
      ("show-ends", 'E', .nothing), ("show-tabs", 'T', .nothing), ("show-all", 'A', .nothing)] }
    args
  let form : CatForm := {
    numbers := f.has 'n' || f.has 'b'
    filled := f.has 'b'
    squeezes := f.has 's'
    showsEnds := f.has 'E' || f.has 'e' || f.has 'A'
    showsTabs := f.has 'T' || f.has 't' || f.has 'A'
    showsOthers := f.has 'v' || f.has 'e' || f.has 't' || f.has 'A' }
  let plain := f.options.all fun (c, _) => c = 'u'
  let _ ← (orInput f.operands).foldlM (fun (st : CatState) operand => do
    match ← content operand with
    | .error e =>
      deploreFile operand e
      pure st
    | .ok text =>
      if plain then
        write text
        pure st
      else
        let (done, st) := form.run [] st text
        write done.reverse
        pure st) {}
  closeInput "closing standard input" (orInput f.operands)

/-- The lines of a text, each with the mark that ends it. -/
def markedLines (mark : Char) (text : List Char) : List (List Char) :=
  let (lines, last) := Text.linesOf mark text
  lines.map (· ++ [mark]) ++ (if last.isEmpty then [] else [last])

/-- The last place before a limit where a separator stands, and where it ends. -/
def lastSeparator? (text separator : Array Char) : Nat → Option (Nat × Nat)
  | 0 => none
  | limit + 1 =>
    if limit + separator.size ≤ text.size &&
        text.extract limit (limit + separator.size) == separator then
      some (limit, limit + separator.size)
    else lastSeparator? text separator limit

/-- The last place before a limit where an expression stands for something that ends there or
before, and the end of that. -/
def lastMatch? (regex : Regex) (text : Array Char) : Nat → Option (Nat × Nat)
  | 0 => none
  | start + 1 =>
    match regex.farthest? text start with
    | some p => some (start, p.position)
    | none => lastMatch? regex text start

/-- The places where the pieces of a text are cut, from the last one to the first one. `find?` gives
the last separator before a limit. -/
def cutsFrom (find? : Nat → Option (Nat × Nat)) : Nat → Nat → List (Nat × Nat)
  | 0, _ => []
  | fuel + 1, limit =>
    match find? limit with
    | none => []
    | some (start, stop) => (start, stop) :: cutsFrom find? fuel start

/-- The pieces of a text between some cuts, from the last one to the first one. A separator belongs
to the piece before it, or to the one behind it. -/
def piecesBack (text : Array Char) (before : Bool) (cuts : List (Nat × Nat)) : List Char :=
  let places := cuts.map fun (start, stop) => if before then start else stop
  let ends := text.size :: places
  ((ends.zip (places ++ [0])).map fun (stop, start) => (text.extract start stop).toList).flatten

/-- Writes the lines of files from the last one to the first one. -/
def tac (args : List String) : Act Unit := do
  let f ← options {
    letters := "brs:"
    names := [("before", 'b', .nothing), ("regex", 'r', .nothing), ("separator", 's', .value)] }
    args
  let separator := match (f.value? 's').map String.toList with
    | none => ['\n']
    | some [] => if f.has 'r' then [] else ['\x00']
    | some separator => separator
  if separator.isEmpty then fail "separator cannot be empty"
  let regex ← if !f.has 'r' then pure none
    else
      let form : Regex.Form := {
        bareRepeats := true, counts := false, lines := true, emptyRanges := true
        pointInLine := true }
      match Regex.read form separator with
      | .ok regex => pure (some regex)
      | .error refusal => fail refusal.message
  let cuts := fun (text : Array Char) =>
    match regex with
    | some regex =>
      cutsFrom (fun limit => lastMatch? regex (text.extract 0 limit) limit) (text.size + 1)
        text.size
    | none =>
      let length := separator.length
      cutsFrom (fun limit => lastSeparator? text separator.toArray (limit + 1 - length))
        (text.size + 1) text.size
  forAll (orInput f.operands) fun operand => do
    match ← content operand with
    | .error .isDirectory => deplore (shown operand ++ ": read error: Invalid argument")
    | .error .notOpen => deplore "'standard input': read error: Bad file descriptor"
    | .error e => deplore ("failed to open " ++ inQuotes operand ++ " for reading: " ++ e.reason)
    | .ok text =>
      let text := text.toArray
      write (piecesBack text (f.has 'b') (cuts text))
  closeInput "-" (orInput f.operands)

/-- Writes the lines of files with their characters turned round. -/
def rev (args : List String) : Act Unit := do
  let f ← options { letters := "0hV" } args
  forAll (orInput f.operands) fun operand => do
    match ← content operand with
    | .error e => deplore ("cannot open " ++ operand ++ ": " ++ e.reason)
    | .ok text =>
      let (lines, last) := Text.linesOf '\n' text
      write (Text.ofLines (lines.map List.reverse) ++ last.reverse)

/-- Writes the input, and to files as well. -/
def tee (args : List String) : Act Unit := do
  let f ← options {
    letters := "aip"
    names := [("append", 'a', .nothing), ("ignore-interrupts", 'i', .nothing),
      ("output-error", 'p', .perhaps)] } args
  let s ← get
  let opened ← f.operands.mapM fun operand => do
    let s ← get
    match s.openToWrite operand (if f.has 'a' then .append else .forced) with
    | .error e =>
      deploreFile operand e
      pure none
    | .ok (files, target) =>
      let stream := 100 + s.channels.size
      set ({ s with files }.attach stream target)
      pure (some stream)
  if ← isInputClosed then deplore "read error: Bad file descriptor"
  let text ← readAll 0
  write text
  closeInput "standard input" ["-"]
  forAll opened fun stream => match stream with
    | some stream => emit stream text
    | none => pure ()
  modify fun after => { after with streams := s.streams }

/-- What is counted in a text. -/
structure Counts where
  lines : Nat := 0
  words : Nat := 0
  chars : Nat := 0
  longest : Nat := 0

namespace Counts

/-- Counts on, with the place in the line and whether it is in a word. -/
def addFrom (n : Counts) (column : Nat) (inWord : Bool) : List Char → Counts
  | [] => { n with longest := max n.longest column }
  | c :: rest =>
    let n := { n with chars := n.chars + 1 }
    if c = '\n' then
      addFrom { n with lines := n.lines + 1, longest := max n.longest column } 0 false rest
    else if c = '\t' then addFrom n (column / 8 * 8 + 8) false rest
    else if c = '\r' || c = '\x0c' then
      addFrom { n with longest := max n.longest column } 0 false rest
    else if c = ' ' then addFrom n (column + 1) false rest
    else if c = '\x0b' then addFrom n column false rest
    else if isPrintable c then
      addFrom { n with words := if inWord then n.words else n.words + 1 } (column + 1) true rest
    else addFrom n column inWord rest

/-- What is counted in a text. -/
def ofText (text : List Char) : Counts :=
  addFrom {} 0 false text

/-- What is counted in two texts together. -/
def add (a b : Counts) : Counts :=
  ⟨a.lines + b.lines, a.words + b.words, a.chars + b.chars, max a.longest b.longest⟩

end Counts

/-- The size of the file that an operand stands for, if it is a regular one; nothing is told of a
file that is not there. -/
def sizeOf? (s : State) (operand : String) : Option (Option Nat) :=
  let facts := if operand = "-" then s.facts "/dev/stdin" else s.facts operand
  facts.toOption.map fun facts => if facts.kind = .regular then some facts.size else none

/-- The operands that a file lists, each with a mark behind it. There are to be no others. -/
def namesIn (list : String) (operands : List String) : Act (List String) := do
  if let extra :: _ := operands then
    complain ("extra operand " ++ cited extra)
    warn "file operands cannot be combined with --files0-from\n"
    hint
  match ← content list with
  | .error e => fail ("cannot open " ++ inQuotes list ++ " for reading: " ++ e.reason)
  | .ok text => pure ((Text.allLines text '\x00').map String.ofList)

/-- Counts lines, words and characters. -/
def wc (args : List String) : Act Unit := do
  let f ← options {
    letters := "clLmw"
    names := [("bytes", 'c', .nothing), ("chars", 'm', .nothing), ("lines", 'l', .nothing),
      ("words", 'w', .nothing), ("max-line-length", 'L', .nothing),
      ("files0-from", 'F', .value)] } args
  let columns := f.options.filter fun (c, _) => c ≠ 'F'
  let wanted := fun (c : Char) => if columns.isEmpty then c ≠ 'm' && c ≠ 'L' else f.has c
  let operands ← match f.value? 'F' with
    | none => pure (orInput f.operands)
    | some list => namesIn list f.operands
  let cells := fun (n : Counts) =>
    (if wanted 'l' then [n.lines] else []) ++ (if wanted 'w' then [n.words] else []) ++
      (if wanted 'm' then [n.chars] else []) ++ (if wanted 'c' then [n.chars] else []) ++
      (if wanted 'L' then [n.longest] else [])
  let s ← get
  let sizes := operands.filterMap (sizeOf? s)
  let total := (sizes.filterMap id).foldl (· + ·) 0
  let width :=
    if f.has 'F' && sizeOf? s ((f.value? 'F').getD "") = some none then 1
    else if operands.length = 1 && (cells {}).length = 1 then 1
    else max (toString total).length (if sizes.any Option.isNone then 7 else 1)
  let row := fun (n : Counts) (name : String) =>
    writeText (String.intercalate " " ((cells n).map fun value => padLeft width (toString value)) ++
      (if name.isEmpty then "" else " " ++ name) ++ "\n")
  let told := fun (n : Counts) (name : String) =>
    row n (if name.contains '\n' then Tool.shown name else name)
  let isBare := f.operands.isEmpty && !f.has 'F'
  let all ← operands.foldlM (fun (all : Counts) operand => do
    match ← content operand with
    | .error .isDirectory =>
      deploreFile operand .isDirectory
      told {} operand
      pure all
    | .error .notOpen =>
      let title := if isBare then "'standard input'" else operand
      deplore (title ++ ": " ++ FileError.notOpen.reason)
      told {} (if isBare then "" else operand)
      pure all
    | .error e =>
      if operand.isEmpty then deplore "invalid zero-length file name" else deploreFile operand e
      pure all
    | .ok text =>
      let n := Counts.ofText text
      told n (if isBare then "" else operand)
      pure (all.add n)) {}
  if 1 < operands.length then row all "total"
  closeInput "-" operands

/-- Writes a line again and again. -/
def yes (args : List String) : Act Unit := do
  let line := (if args.isEmpty then "y" else String.intercalate " " args) ++ "\n"
  let piece := (List.replicate 512 line.toList).flatten
  repeatWhile (fun (rounds : Nat) => do
    write piece
    pure (if rounds = 0 then none else some (rounds - 1))) 3000

end RemoteAttach.Tool
