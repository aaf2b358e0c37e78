import RemoteAttach.Text.Regex.Reader
import RemoteAttach.Tool.Copy
import RemoteAttach.Tool.Find

/-! Searching lines for patterns, and writing those that have one, or what has been found. -/

namespace RemoteAttach.Tool.Grep

open Shell Act

/-- How the patterns are written. -/
inductive Kind where
  | basic
  | extended
  | fixed
  | perl
  deriving DecidableEq

/-- What is searched for. -/
structure Wanted where
  patterns : List Regex
  /-- What is found has to be a word, or a whole line. -/
  words : Bool
  lines : Bool

/-- What is found at a position is accepted. -/
def Wanted.accepts (w : Wanted) (text : Array Char) (start stop : Nat) : Bool :=
  if w.lines then start = 0 && stop = text.size
  else if w.words then
    !(0 < start && Regex.isWordAt text (start - 1)) && !Regex.isWordAt text stop
  else true

/-- The first part of a line from a position on that is wanted, the longest of those that begin
there. -/
def Wanted.findFrom (w : Wanted) (text : Array Char) : Nat → Nat → Option (Nat × Nat)
  | 0, _ => none
  | fuel + 1, start =>
    let stops := w.patterns.flatMap fun r =>
      (r.reach text r.looksBack ⟨start, []⟩).map (·.position)
    let fine := stops.filter (w.accepts text start)
    match fine with
    | [] => if w.lines then none else w.findFrom text fuel (start + 1)
    | stop :: rest => some (start, rest.foldl max stop)

/-- The first part of a line from a position on that is wanted. -/
def Wanted.find? (w : Wanted) (text : Array Char) (start : Nat) : Option (Nat × Nat) :=
  w.findFrom text (text.size + 1 - start) start

/-- All parts of a line that are wanted, but for empty ones. -/
def Wanted.all (w : Wanted) (text : Array Char) : Nat → Nat → List (Nat × Nat)
  | 0, _ => []
  | fuel + 1, start =>
    match w.find? text start with
    | none => []
    | some (first, stop) =>
      if first = stop then w.all text fuel (stop + 1)
      else (first, stop) :: w.all text fuel stop

/-- What is written of the lines. -/
structure Form where
  inverts : Bool := false
  names : Bool := false
  numbers : Bool := false
  offsets : Bool := false
  onlyParts : Bool := false
  counts : Bool := false
  /-- Only the names of files are written: of those that have a line, or have none. -/
  lists : Option Bool := none
  quiet : Bool := false
  binaryAsText : Bool := false
  skipsBinary : Bool := false
  zeroNames : Bool := false
  mark : Char := '\n'
  before : Nat := 0
  after : Nat := 0
  context : Bool := false
  separator : Option String := some "--"
  most : Option Nat := none

/-- A line with its number and the place where it begins. -/
structure Line where
  number : Nat
  offset : Nat
  text : List Char

/-- The lines of a text with their numbers and places. -/
def linesOf (mark : Char) (text : List Char) : List Line :=
  let step := fun (all, n, offset) (line : List Char) =>
    ((⟨n, offset, line⟩ : Line) :: all, n + 1, offset + line.length + 1)
  ((Text.allLines text mark).foldl step ([], 1, 0)).1.reverse

/-- What stands before a line. -/
def Form.start (f : Form) (name : String) (number offset : Nat) (sign : Char) : List Char :=
  (if f.names then name.toList ++ [if f.zeroNames then '\x00' else sign] else []) ++
    (if f.numbers then (toString number).toList ++ [sign] else []) ++
    (if f.offsets then (toString offset).toList ++ [sign] else [])

/-- What is written of a line that is selected, or stands near one. -/
def Form.shown (f : Form) (w : Wanted) (name : String) (line : Line) (selected : Bool) :
    List Char :=
  let sign := if selected then ':' else '-'
  if f.onlyParts then
    if !selected || f.inverts then []
    else
      let text := line.text.toArray
      (w.all text (text.size + 2) 0).flatMap fun (start, stop) =>
        f.start name line.number (line.offset + start) sign ++
          (text.extract start stop).toList ++ [f.mark]
  else f.start name line.number line.offset sign ++ line.text ++ [f.mark]

/-- What is known while the lines of a file are written. -/
structure Progress where
  /-- The pieces that have been written, the last one first. -/
  pieces : List (List Char) := []
  /-- The number of the last line that was written. -/
  last : Nat := 0
  /-- The lines that are still to be written after a selected one. -/
  pending : Nat := 0
  /-- The lines before this one that have not been written, the last one first. -/
  held : List Line := []
  selected : Nat := 0
  /-- Some lines have been written, also of other files. -/
  used : Bool := false

/-- Goes through the lines of a file. -/
def scan (f : Form) (w : Wanted) (name : String) : List Line → Progress → Progress
  | [], p => p
  | line :: rest, p =>
    let full := f.most.any (· ≤ p.selected)
    if full && p.pending = 0 then p
    else
      let found := (w.find? line.text.toArray 0).isSome != f.inverts
      if found && full then p
      else if found then
        let held := (p.held.take f.before).reverse
        let first := (held.head?.map (·.number)).getD line.number
        let gap := match f.separator with
          | some text =>
            if f.context && p.used && (p.last = 0 || p.last + 1 ≠ first) then
              text.toList ++ ['\n'] else []
          | none => []
        let texts := held.map fun line => f.shown w name line false
        scan f w name rest { p with
          pieces := f.shown w name line true :: (texts.reverse ++ gap :: p.pieces)
          last := line.number, pending := f.after, held := [], selected := p.selected + 1
          used := true }
      else if p.pending ≠ 0 then
        scan f w name rest { p with
          pieces := f.shown w name line false :: p.pieces
          last := line.number, pending := p.pending - 1 }
      else scan f w name rest { p with held := (line :: p.held).take f.before }

/-- What is known of all files so far. -/
structure Outcome where
  found : Bool := false
  failed : Bool := false
  used : Bool := false

/-- Searches a text. -/
def searchText (f : Form) (w : Wanted) (name : String) (text : List Char) (o : Outcome) :
    Act Outcome := do
  let lines := linesOf f.mark text
  let binary := text.contains '\x00' && f.mark ≠ '\x00' && !f.binaryAsText
  let brief := f.quiet || f.lists.isSome || (binary && !f.counts)
  if binary && f.skipsBinary then pure o
  else
    let form := if brief then { f with most := some 1, after := 0 } else f
    let p := scan form w name lines { used := o.used }
    let found := p.selected ≠ 0
    let o := { o with found := o.found || found }
    if f.quiet then
      if found then
        finish 0
        throw .exit
      pure o
    else
      match f.lists with
      | some wanted =>
        if found = wanted then
          write (name.toList ++ [if f.zeroNames then '\x00' else '\n'])
        pure o
      | none =>
        if f.counts then
          let start := if f.names then
              name.toList ++ [if f.zeroNames then '\x00' else ':'] else []
          write (start ++ (toString p.selected).toList ++ ['\n'])
          pure o
        else if binary then
          if found then complain (name ++ ": binary file matches")
          pure o
        else
          write p.pieces.reverse.flatten
          pure { o with used := p.used }

/-- Which files of a tree are searched. -/
structure Choice where
  deep : Bool
  followsLinks : Bool
  skipsFolders : Bool
  silent : Bool
  included : List String
  excluded : List String
  excludedFolders : List String

/-- A file of this text is searched. -/
def Choice.wants (c : Choice) (text : String) : Bool :=
  let fits := fun (pattern : String) =>
    Find.fits false pattern (lastName text) || Find.fits false pattern text
  (c.included.isEmpty || c.included.any fits) && !c.excluded.any fits

/-- Tells that a file cannot be searched. -/
def unreadable (c : Choice) (text : String) (e : FileError) (o : Outcome) : Act Outcome := do
  if !c.silent then complain (text ++ ": " ++ e.reason)
  pure { o with failed := true }

/-- Searches a file, or the files in a folder. -/
def searchFile (f : Form) (w : Wanted) (c : Choice) (namesBelow : Bool) :
    Nat → Bool → String → Outcome → Act Outcome
  | 0, _, _, o => pure o
  | fuel + 1, top, text, o => do
    let s ← get
    if s.files.isFolder s.folder text then
      if c.deep then
        if !top && c.excludedFolders.any fun p => Find.fits false p (lastName text) then pure o
        else
          match nodeAt s text with
          | .error e => unreadable c text e o
          | .ok (path, _) =>
            let f := if namesBelow then { f with names := true } else f
            (s.files.children path).foldlM (fun (o : Outcome) entry => do
              let name := inFolder text (entry.path.getLastD "")
              if isLink entry.node && !c.followsLinks then pure o
              else searchFile f w c namesBelow fuel false name o) o
      else if c.skipsFolders then pure o
      else unreadable c text .isDirectory o
    else if !c.wants text then pure o
    else
      match ← content text with
      | .error e => unreadable c text e o
      | .ok content => searchText f w text content o

/-- The signs that stand at the start of an extended expression although they repeat what is before
them. -/
def strayRepeats (atStart : Bool) : List Char → List String
  | [] => []
  | '\\' :: _ :: rest => strayRepeats false rest
  | c :: rest =>
    if atStart && (c = '*' || c = '+' || c = '?') then
      (c.toString ++ " at start of expression") :: strayRepeats true rest
    else if atStart && c = '\x7b' && rest.head?.any Char.isDigit then
      "\x7b...\x7d at start of expression" :: strayRepeats false rest
    else strayRepeats (c = '(' || c = '|' || c = '^') rest

/-- A pattern with the classes of the richer form written out. -/
def plainForm : List Char → List Char
  | '\\' :: 'd' :: rest => "[0-9]".toList ++ plainForm rest
  | '\\' :: 'D' :: rest => "[^0-9]".toList ++ plainForm rest
  | '\\' :: 'h' :: rest => "[ \t]".toList ++ plainForm rest
  | '\\' :: 't' :: rest => '\t' :: plainForm rest
  | '\\' :: c :: rest => '\\' :: c :: plainForm rest
  | '(' :: '?' :: ':' :: rest => '(' :: plainForm rest
  | c :: rest => c :: plainForm rest
  | [] => []

/-- A pattern holds a class outside of brackets. -/
def hasBareClass (text : List Char) : Bool :=
  match text with
  | '[' :: ':' :: rest =>
    let body := rest.takeWhile (· ≠ ']')
    !body.isEmpty && body.getLast? = some ':' && rest.length ≠ body.length
  | _ => false

/-- The expression of a pattern. -/
def compile (kind : Kind) (folds : Bool) (text : List Char) : Act Regex := do
  let regex ← match kind with
    | .fixed => pure (Regex.ofText text)
    | _ =>
      if hasBareClass text then
        fail "character class syntax is [[:space:]], not [:space:]" 2
      if kind = .extended then
        forAll (strayRepeats true text) fun words => complain ("warning: " ++ words)
      let text := if kind = .perl then plainForm text else text
      match Regex.read { extended := kind ≠ .basic } text with
      | .ok regex => pure regex
      | .error refusal => fail refusal.message 2
  pure (if folds then regex.foldCase else regex)

/-- Refuses a call. -/
def usage {α : Type} : Act α := do
  warn "Usage: grep [OPTION]... PATTERNS [FILE]...\nTry 'grep --help' for more information.\n"
  finish 2
  throw .exit

/-- The options. -/
def optionForm : Options where
  letters := "0123456789A:B:C:D:EFGHILPTUVabcd:e:f:hilm:noqRrsuvwxyZz"
  names := [("after-context", 'A', .value), ("basic-regexp", 'G', .nothing),
    ("before-context", 'B', .value), ("binary-files", '@', .value),
    ("byte-offset", 'b', .nothing), ("color", '!', .perhaps), ("colour", '!', .perhaps),
    ("context", 'C', .value), ("count", 'c', .nothing), ("devices", 'D', .value),
    ("directories", 'd', .value), ("exclude", '#', .value), ("exclude-dir", '%', .value),
    ("extended-regexp", 'E', .nothing), ("file", 'f', .value),
    ("files-with-matches", 'l', .nothing), ("files-without-match", 'L', .nothing),
    ("fixed-strings", 'F', .nothing), ("group-separator", '&', .value),
    ("ignore-case", 'i', .nothing), ("include", '+', .value), ("initial-tab", 'T', .nothing),
    ("invert-match", 'v', .nothing), ("label", '=', .value), ("line-buffered", '_', .nothing),
    ("line-number", 'n', .nothing), ("line-regexp", 'x', .nothing), ("max-count", 'm', .value),
    ("no-filename", 'h', .nothing), ("no-group-separator", '~', .nothing),
    ("no-ignore-case", '^', .nothing), ("no-messages", 's', .nothing), ("null", 'Z', .nothing),
    ("null-data", 'z', .nothing), ("only-matching", 'o', .nothing),
    ("perl-regexp", 'P', .nothing), ("quiet", 'q', .nothing), ("recursive", 'r', .nothing),
    ("dereference-recursive", 'R', .nothing), ("regexp", 'e', .value), ("silent", 'q', .nothing),
    ("text", 'a', .nothing), ("version", 'V', .nothing), ("with-filename", 'H', .nothing),
    ("word-regexp", 'w', .nothing)]

/-- The number of lines around a selected one that an option asks for. -/
def contextLength (f : Found) (letter : Char) : Act (Option Nat) := do
  match f.value? letter with
  | none => pure none
  | some text =>
    match text.toNat? with
    | some n => pure (some n)
    | none => fail (text ++ ": invalid context length argument") 2

/-- Searches files. -/
def run (preset : Kind) (args : List String) : Act Unit := do
  let f ← match optionForm.read args with
    | .ok found => pure found
    | .error text =>
      complain text
      usage
  if f.has 'V' then
    writeText "grep (GNU grep) 3.8\n"
    throw .exit
  let after ← contextLength f 'A'
  let before ← contextLength f 'B'
  let both ← contextLength f 'C'
  let digits := (f.options.filter fun (c, _) => c.isDigit).map (·.1)
  let both := both.or (if digits.isEmpty then none else Text.digitsAfter 10 0 digits)
  let most ← match f.value? 'm' with
    | none => pure none
    | some text =>
      match text.toInt? with
      | some n => pure (if n < 0 then none else some n.toNat)
      | none => fail "invalid max count" 2
  let kind := match f.last? ['E', 'F', 'G', 'P'] with
    | some 'E' => Kind.extended
    | some 'F' => .fixed
    | some 'P' => .perl
    | some _ => .basic
    | none => preset
  let fromOptions ← f.options.mapM fun (c, value) => do
    if c = 'e' then pure (Text.pieces ['\n'] value.toList)
    else if c = 'f' then
      match ← content value with
      | .ok text => pure (Text.allLines text)
      | .error e => fail (value ++ ": " ++ e.reason) 2
    else pure []
  let given := f.has 'e' || f.has 'f'
  let (texts, operands) ← match given, f.operands with
    | true, operands => pure (fromOptions.flatten, operands)
    | false, pattern :: operands => pure (Text.pieces ['\n'] pattern.toList, operands)
    | false, [] => usage
  if f.has 'u' then complain "warning: --unix-byte-offsets (-u) is obsolete"
  let folds := f.has 'i' || f.has 'y'
  let patterns ← texts.mapM (compile kind folds)
  let deep := f.has 'r' || f.has 'R' || f.value? 'd' = some "recurse"
  let several := 1 < operands.length
  let nameOption := f.last? ['H', 'h']
  let form : Form := {
    inverts := f.has 'v'
    names := nameOption = some 'H' || (nameOption.isNone && several) ||
      (nameOption.isNone && deep && operands.isEmpty)
    numbers := f.has 'n', offsets := f.has 'b', onlyParts := f.has 'o', counts := f.has 'c'
    lists := (f.last? ['l', 'L']).map fun c => c = 'l'
    quiet := f.has 'q'
    binaryAsText := f.has 'a' || f.value? '@' = some "text"
    skipsBinary := f.has 'I' || f.value? '@' = some "without-match"
    zeroNames := f.has 'Z', mark := if f.has 'z' then '\x00' else '\n'
    before := (before.or both).getD 0, after := (after.or both).getD 0
    context := (before.or both).isSome || after.isSome
    separator := if f.last? ['~', '&'] = some '~' then none else some ((f.value? '&').getD "--")
    most }
  let choice : Choice := {
    deep, followsLinks := f.has 'R', skipsFolders := f.value? 'd' = some "skip"
    silent := f.has 's', included := f.values '+', excluded := f.values '#'
    excludedFolders := f.values '%' }
  let wanted : Wanted := { patterns, words := f.has 'w', lines := f.has 'x' }
  if most = some 0 then finish 1
  else
    let namesBelow := nameOption ≠ some 'h'
    let size := (← get).files.entries.length + 2
    let outcome ← if operands.isEmpty && deep then do
        let s ← get
        (s.files.children s.folder).foldlM (fun (o : Outcome) entry =>
          searchFile form wanted choice namesBelow size false (entry.path.getLastD "") o) {}
      else
        (orInput operands).foldlM (fun (o : Outcome) text => do
          if text = "-" then
            let name := (f.value? '=').getD "(standard input)"
            match ← content "-" with
            | .error e => unreadable choice name e o
            | .ok content => searchText form wanted name content o
          else searchFile form wanted choice namesBelow size true text o) {}
    finish (if outcome.failed then 2 else if outcome.found then 0 else 1)

end RemoteAttach.Tool.Grep
