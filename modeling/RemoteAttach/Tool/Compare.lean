import RemoteAttach.Text.Regex.Reader
import RemoteAttach.Tool.Compare.Merged
import RemoteAttach.Tool.Facts
import RemoteAttach.Tool.Pieces

/-! Programs that compare files: `cmp` by their bytes, and `diff` by their lines, in one of several
styles, also for all files of two folders. -/

namespace RemoteAttach.Tool.Compare

open Shell Act

/-- Complains about a call, and ends. -/
def refuse {α : Type} (text : String) : Act α := do
  complain text
  complain ("Try '" ++ (← get).name ++ " --help' for more information.")
  finish 2
  throw .exit

/-- The options and operands of a program. -/
def optionsOf (o : Options) (args : List String) : Act Found := do
  match o.read args with
  | .ok found => pure found
  | .error text => refuse text

/-- The two operands of a program, besides the operands that may follow them. -/
def twoOperands (f : Found) (name : String) (rest : List String → Option String) :
    Act (String × String) := do
  match f.operands with
  | [] => refuse ("missing operand after '" ++ name ++ "'")
  | [only] => refuse ("missing operand after '" ++ only ++ "'")
  | first :: second :: more =>
    match rest more with
    | some extra => refuse ("extra operand '" ++ extra ++ "'")
    | none => pure (first, second)

/-- The first place where two texts have different bytes, as their number and that of the line. -/
def firstDifference : Nat → Nat → List Char → List Char → Option (Nat × Nat × Char × Char)
  | byte, line, a :: as, b :: bs =>
    if a ≠ b then some (byte, line, a, b)
    else firstDifference (byte + 1) (if a = '\n' then line + 1 else line) as bs
  | _, _, _, _ => none

/-- A byte in the form in which it can be seen. -/
def visible (c : Char) : String :=
  let plain := fun (n : Nat) =>
    if n < 32 then "^" ++ (Char.ofNat (n + 64)).toString
    else if n = 127 then "^?"
    else (Char.ofNat n).toString
  if c.toNat < 128 then plain c.toNat else "M-" ++ plain (c.toNat - 128)

/-- A byte as an octal number. -/
def octal (c : Char) : String :=
  padLeft 3 (String.ofList (Nat.toDigits 8 c.toNat))

/-- The line that `cmp` writes for a pair of bytes, of which the first has a number. -/
def bytePair (width : Nat) (withText : Bool) (byte : Nat) (a b : Char) : String :=
  padLeft width (toString byte) ++ " " ++ octal a ++
    (if withText then " " ++ padRight 4 (visible a) else "") ++ " " ++ octal b ++
    (if withText then " " ++ visible b else "")

/-- What `cmp` says of the end of the shorter one of two texts. -/
def endWords (name : String) (text : List Char) (withLine : Bool) : String :=
  if text.isEmpty then "EOF on " ++ name ++ " which is empty"
  else
    let lines := (text.filter (· = '\n')).length
    let complete := text.getLast? = some '\n'
    "EOF on " ++ name ++ " after byte " ++ toString text.length ++
      (if !withLine then ""
      else if complete then ", line " ++ toString lines
      else ", in line " ++ toString (lines + 1))

/-- The content that `cmp` compares: what follows some bytes, up to some number of them. -/
def portion (skipped : Nat) (most : Option Nat) (text : List Char) : List Char :=
  let rest := text.drop skipped
  match most with
  | some n => rest.take n
  | none => rest

/-- Compares two files by their bytes. -/
def bytes (args : List String) : Act Unit := do
  let (f, fault) ← optionsSoFar {
    letters := "bci:ln:sv"
    names := [("print-bytes", 'b', .nothing), ("ignore-initial", 'i', .value),
      ("verbose", 'l', .nothing), ("bytes", 'n', .value), ("quiet", 's', .nothing),
      ("silent", 's', .nothing)] } args
  let number := fun (name text : String) => do
    match size? text with
    | some n => pure n
    | none => refuse ("invalid --" ++ name ++ " value '" ++ text ++ "'")
  let (skips, most) ← f.options.foldlM (fun (skips, most) (c, text) => do
    if c = 'n' then
      let n ← number "bytes" text
      pure (skips, some (most.elim n (min n)))
    else if c = 'i' then
      let (a, b) ← match Text.cutAt ':' text.toList with
        | some (a, b) => do
          let a ← number "ignore-initial" (String.ofList a)
          pure (a, ← number "ignore-initial" (String.ofList b))
        | none => do
          let n ← number "ignore-initial" text
          pure (n, n)
      pure ((max skips.1 a, max skips.2 b), most)
    else pure (skips, most)) ((0, 0), (none : Option Nat))
  if let some text := fault then refuse text
  if f.has 'l' && f.has 's' then refuse "options -l and -s are incompatible"
  let f := match f.operands with
    | [only] => { f with operands := [only, "-"] }
    | _ => f
  let (first, second) ← twoOperands f (args.getLastD "cmp") fun _ => none
  let given ← (f.operands.drop 2 |>.take 2).mapM (number "ignore-initial")
  if let some extra := f.operands[4]? then refuse ("extra operand '" ++ extra ++ "'")
  let skip := fun (n : Nat) => max (given.getD n 0) (if n = 0 then skips.1 else skips.2)
  let all ← [first, second].mapM fun name => do pure (name, ← content name)
  match all with
  | [(_, .ok a), (_, .ok b)] =>
    let a := portion (skip 0) most a
    let b := portion (skip 1) most b
    let shorter := if a.length < b.length then (first, a) else (second, b)
    let ends := a.length ≠ b.length
    let short := min a.length b.length
    let tellEnd : Act Unit := do
      if ends then
        finish 1
        if !f.has 's' then complain (endWords shorter.1 shorter.2 (!f.has 'l'))
    match firstDifference 1 1 a b with
    | none => tellEnd
    | some (byte, line, x, y) =>
      finish 1
      if f.has 's' then pure ()
      else if f.has 'l' then
        let width := (toString short).length
        let pairs := ((a.zip b).zipIdx.filter fun ((x, y), _) => x ≠ y)
        writeLines (pairs.map fun ((x, y), n) => bytePair width (f.has 'b') (n + 1) x y)
        if short < max a.length b.length then tellEnd
      else
        let unit := if f.has 'b' then "byte " else "char "
        let pair := if f.has 'b' then
            " is " ++ octal x ++ " " ++ visible x ++ " " ++ octal y ++ " " ++ visible y
          else ""
        writeLines [first ++ " " ++ second ++ " differ: " ++ unit ++ toString byte ++ ", line " ++
          toString line ++ pair]
  | all =>
    finish 2
    let faults := all.filterMap fun (name, outcome) => match outcome with
      | .error e => some (name, e)
      | .ok _ => none
    if !f.has 's' then
      match faults with
      | (name, e) :: _ => complain (name ++ ": " ++ e.reason)
      | [] => pure ()

/-- The form in which `diff` shows differences. -/
inductive Style where
  | normal
  | unified (context : Nat)
  | context (context : Nat)
  | script
  | numbered
  | brief
  | beside
  /-- Both files in one output. -/
  | merged
  deriving DecidableEq

/-- How `diff` compares. -/
structure Manner where
  style : Style := .normal
  foldCase : Bool := false
  /-- All blanks count as nothing. -/
  noBlanks : Bool := false
  /-- Runs of blanks count as one, and as nothing at the end of a line. -/
  anyBlanks : Bool := false
  /-- Blanks at the end of a line count as nothing. -/
  noTrailing : Bool := false
  noReturns : Bool := false
  /-- Tabs count as the blanks that they stand for. -/
  sameTabs : Bool := false
  /-- Changes of empty lines only count as nothing. -/
  noEmpty : Bool := false
  /-- Changes of lines in which one of these is found count as nothing. -/
  ignored : List Regex := []
  /-- The last line in which this is found is shown above changes. -/
  headings : Option Regex := none
  asText : Bool := false
  tellsSame : Bool := false
  deep : Bool := false
  /-- A file that is missing counts as empty. -/
  withNew : Bool := false
  labels : List String := []
  excluded : List String := []
  width : Nat := 130
  onlyChanges : Bool := false
  /-- Lines that are the same stand only on the left side. -/
  onlyLeft : Bool := false
  /-- The least number of same lines beside a change that it may be moved over. -/
  horizon : Nat := 0
  /-- Blanks stand for tabs in the lines. -/
  noTabs : Bool := false
  /-- A tab stands before each line, so that tabs in it end where they did. -/
  initialTab : Bool := false
  /-- The forms of groups and lines, where both files go to one output. -/
  forms : Forms := .ofGiven (fun _ => none) (fun _ => none)
  /-- The options as they were given, for the lines that name two files of two folders. -/
  given : List String := []

/-- A file that is compared. -/
structure Side where
  name : String
  text : List Char
  moment : Int := 0

/-- The lines of a text. -/
def rows (text : List Char) : Array Row :=
  let (lines, last) := Text.linesOf '\n' text
  let all := lines.map fun line => (line, false)
  (if last.isEmpty then all else all ++ [(last, true)]).toArray

/-- A blank within a line. -/
def isBlank (c : Char) : Bool :=
  c = ' ' || ('\t' ≤ c && c ≤ '\x0d')

/-- The line without the blanks at its end. -/
def trimmed (line : List Char) : List Char :=
  (line.reverse.dropWhile isBlank).reverse

/-- The line with each run of blanks as a single one. -/
def squeezed (line : List Char) : List Char :=
  (line.splitBy fun a b => isBlank a && isBlank b).flatMap fun run =>
    if run.head?.any isBlank then [' '] else run

/-- A line with blanks for its tabs, from a column on. -/
def untabbed : Nat → List Char → List Char
  | _, [] => []
  | column, '\t' :: rest =>
    let count := 8 - column % 8
    List.replicate count ' ' ++ untabbed (column + count) rest
  | column, c :: rest => c :: untabbed (if c = '\x08' then column - 1 else column + 1) rest

/-- What of a line counts. -/
def Manner.key (m : Manner) (row : Row) : Row :=
  let (line, isOpen) := row
  let line := if m.noReturns && line.getLast? = some '\x0d' then line.dropLast else line
  let line := if m.foldCase then line.map Char.toLower else line
  let line := if m.sameTabs then untabbed 0 line else line
  if m.noBlanks then (line.filter (!isBlank ·), false)
  else if m.anyBlanks then (squeezed (trimmed line), false)
  else if m.noTrailing then (trimmed line, false)
  else (line, isOpen && m.style ≠ .script)

/-- The number of same lines at both ends of two files that changes may be moved over. -/
def Manner.freeLines (m : Manner) : Nat :=
  match m.style with
  | .unified n | .context n => max n m.horizon
  | _ => m.horizon

/-- The changes between two files. -/
def Manner.changes (m : Manner) (a b : Array Row) : List Text.Difference.Change :=
  let (before, after) := Text.Difference.fixedLines m.freeLines a b
  Text.Difference.changes before after (a.map m.key) (b.map m.key)

/-- Whether a change counts: one of its lines is neither empty nor ignored. -/
def Manner.counts (m : Manner) (a b : Array Row) (c : Text.Difference.Change) : Bool :=
  let lines := (a.extract c.first (c.first + c.removed)).toList ++
    (b.extract c.second (c.second + c.added)).toList
  lines.any fun (line, _) =>
    !(m.noEmpty && (m.key (line, false)).1.isEmpty) &&
      !m.ignored.any fun regex => regex.occursIn line.toArray

/-- A mark as it stands before a line. -/
def Manner.mark (m : Manner) (mark : String) (isEmpty : Bool) : String :=
  if !m.initialTab then mark
  else if mark = " " then "\t"
  else if mark = "-" || mark = "+" then if isEmpty then mark else mark ++ "\t"
  else (mark.take 1).toString ++ "\t"

/-- A line behind a mark. -/
def Manner.rowText (m : Manner) (mark : String) (row : Row) : List Char :=
  (m.mark mark row.1.isEmpty).toList ++ (if m.noTabs then untabbed 0 row.1 else row.1) ++ ['\n'] ++
    (if row.2 then "\\ No newline at end of file\n".toList else [])

/-- Some lines of a file behind marks. -/
def Manner.rowsText (m : Manner) (mark : String) (all : Array Row) (start count : Nat) :
    List Char :=
  (all.extract start (start + count)).toList.flatMap (m.rowText mark)

/-- The numbers of the first and the last of some lines; of none, that of the line before. -/
def range (start count : Nat) : String :=
  if count ≤ 1 then toString (start + count)
  else toString (start + 1) ++ "," ++ toString (start + count)

/-- The letter of a change. -/
def letter (c : Text.Difference.Change) : String :=
  if c.added = 0 then "d" else if c.removed = 0 then "a" else "c"

/-- A change in the normal style. -/
def normalText (m : Manner) (a b : Array Row) (c : Text.Difference.Change) : List Char :=
  (range c.first c.removed ++ letter c ++ range c.second c.added ++ "\n").toList ++
    m.rowsText "< " a c.first c.removed ++
    (if c.removed = 0 || c.added = 0 then [] else "---\n".toList) ++
    m.rowsText "> " b c.second c.added

/-- Lines as an editor takes them in. One that is a mere dot would end its reading, and is written
as two dots of which the first one is removed. -/
def editorRows : Bool → List Row → List Char
  | reads, [] => if reads then ".\n".toList else []
  | reads, row :: rest =>
    let start := if reads then [] else "a\n".toList
    if row.1 = ['.'] then start ++ "..\n.\ns/.//\n".toList ++ editorRows false rest
    else start ++ row.1 ++ ['\n'] ++ editorRows true rest

/-- A change as commands of an editor. -/
def scriptText (b : Array Row) (c : Text.Difference.Change) : List Char :=
  (range c.first c.removed ++ letter c ++ "\n").toList ++
    (if c.added = 0 then []
    else editorRows true (b.extract c.second (c.second + c.added)).toList)

/-- A change as numbers of lines. -/
def numberedText (b : Array Row) (c : Text.Difference.Change) : List Char :=
  (if c.removed = 0 then ""
    else "d" ++ toString (c.first + 1) ++ " " ++ toString c.removed ++ "\n").toList ++
  (if c.added = 0 then []
    else ("a" ++ toString (c.first + c.removed) ++ " " ++ toString c.added ++ "\n").toList ++
      (b.extract c.second (c.second + c.added)).toList.flatMap fun row =>
        if row.2 then row.1 else row.1 ++ ['\n'])

/-- Changes in groups, in which they have at most twice the context between them, or less than the
context if one of them does not count. -/
def groups (counts : Text.Difference.Change → Bool) (context : Nat) :
    List Text.Difference.Change → List (List Text.Difference.Change)
  | [] => []
  | c :: rest =>
    match groups counts context rest with
    | (next :: more) :: others =>
      let most := if counts c && counts next then 2 * context + 1 else context
      if next.first - (c.first + c.removed) < most then (c :: next :: more) :: others
      else [c] :: (next :: more) :: others
    | others => [c] :: others

/-- The line above a place that is shown as the heading of what stands there. -/
def Manner.heading (m : Manner) (a : Array Row) (start : Nat) : List Char :=
  match m.headings with
  | none => []
  | some regex =>
    match (a.extract 0 start).toList.reverse.find? fun row => regex.occursIn row.1.toArray with
    | some row => ' ' :: trimmed ((row.1.dropWhile isBlank).take 40)
    | none => []

/-- The lines that a group of changes takes up with its context: the first of them and their number,
in each of two files of some sizes. -/
def extent (context sizeA sizeB : Nat) (group : List Text.Difference.Change) :
    (Nat × Nat) × (Nat × Nat) :=
  match group.head?, group.getLast? with
  | some c, some d =>
    let before := min context (min c.first c.second)
    let start := c.first - before
    let other := c.second - before
    let after := min context (min (sizeA - (d.first + d.removed)) (sizeB - (d.second + d.added)))
    ((start, d.first + d.removed + after - start), (other, d.second + d.added + after - other))
  | _, _ => ((0, 0), (0, 0))

/-- The numbers of the first of some lines and of how many they are. -/
def unifiedRange (start count : Nat) : String :=
  if count = 0 then toString start ++ ",0"
  else if count = 1 then toString (start + 1)
  else toString (start + 1) ++ "," ++ toString count

/-- The lines of a group of changes in one run, from a line on up to another one. -/
def unifiedRows (m : Manner) (a b : Array Row) (stop : Nat) :
    Nat → List Text.Difference.Change → List Char
  | i, [] => m.rowsText " " a i (stop - i)
  | i, c :: rest =>
    m.rowsText " " a i (c.first - i) ++ m.rowsText "-" a c.first c.removed ++
      m.rowsText "+" b c.second c.added ++ unifiedRows m a b stop (c.first + c.removed) rest

/-- A group of changes in the unified style. -/
def unifiedText (m : Manner) (context : Nat) (a b : Array Row)
    (group : List Text.Difference.Change) : List Char :=
  let ((start, count), (other, others)) := extent context a.size b.size group
  ("@@ -" ++ unifiedRange start count ++ " +" ++ unifiedRange other others ++ " @@").toList ++
    m.heading a start ++ ['\n'] ++ unifiedRows m a b (start + count) start group

/-- The lines of one file in a group of changes, each marked with what happens to it. `part` gives
the lines of a change in this file, and `alone` the mark of those that have no lines beside them. -/
def contextRows (m : Manner) (all : Array Row) (alone : String)
    (part : Text.Difference.Change → (Nat × Nat) × Nat) (stop : Nat) :
    Nat → List Text.Difference.Change → List Char
  | i, [] => m.rowsText "  " all i (stop - i)
  | i, c :: rest =>
    let ((start, count), beside) := part c
    m.rowsText "  " all i (start - i) ++
      m.rowsText (if beside = 0 then alone else "! ") all start count ++
      contextRows m all alone part stop (start + count) rest

/-- A group of changes in the style that shows the lines of both files. -/
def contextText (m : Manner) (context : Nat) (a b : Array Row)
    (group : List Text.Difference.Change) : List Char :=
  let ((start, count), (other, others)) := extent context a.size b.size group
  let removes := group.any fun c => c.removed ≠ 0
  let adds := group.any fun c => c.added ≠ 0
  "***************".toList ++ m.heading a start ++ ['\n'] ++
    ("*** " ++ range start count ++ " ****\n").toList ++
    (if removes then
      contextRows m a "- " (fun c => ((c.first, c.removed), c.added)) (start + count) start group
    else []) ++
    ("--- " ++ range other others ++ " ----\n").toList ++
    (if adds then
      contextRows m b "+ " (fun c => ((c.second, c.added), c.removed)) (other + others) other group
    else [])

/-- Tabs and blanks from one column up to another. -/
def gap : Nat → Nat → Nat → List Char
  | 0, _, _ => []
  | fuel + 1, start, stop =>
    if stop ≤ start then []
    else
      let next := start + 8 - start % 8
      if next ≤ stop then '\t' :: gap fuel next stop else ' ' :: gap fuel (start + 1) stop

/-- As much of a line as fits into a width, with its width. -/
def half (width : Nat) : Nat → List Char → List Char × Nat
  | column, [] => ([], column)
  | column, c :: rest =>
    if c = '\t' then
      let next := column + 8 - column % 8
      if width ≤ next then ([], column)
      else
        let (more, stop) := half width next rest
        (gap 8 column next ++ more, stop)
    else if column < width then
      let (more, stop) := half width (column + 1) rest
      (c :: more, stop)
    else ([], column)

/-- A line of each file beside the other, with a mark between them. -/
def besideText (width : Nat) (mark : Char) (left right : Option Row) : List Char :=
  let middle := width / 2 + 5 + width % 2
  let offset := middle - middle % 8
  let room := min (offset - 3) (width - offset)
  let (start, column) := match left with
    | some row => half room 0 row.1
    | none => ([], 0)
  let ended := left.any (!·.2)
  let mark := match mark, right with
    | '|', some row => if ended ≠ !row.2 then (if ended then '/' else '\\') else '|'
    | mark, _ => mark
  let (between, column) := if mark = ' ' then ([], column)
    else
      let place := (room + offset - 1) / 2
      (gap 200 column place ++ [mark], max column place + 1)
  let finish := match right with
    | some row => if row.1.isEmpty then [] else gap 200 column offset ++ (half room 0 row.1).1
    | none => []
  start ++ between ++ finish ++ (if ended || right.any (!·.2) then ['\n'] else [])

/-- The changed lines of two files beside each other, and the lines between them from a line on. -/
def besideRows (m : Manner) (a b : Array Row) :
    Nat → Nat → List Text.Difference.Change → List Char
  | i, j, [] => same i j (a.size - i)
  | i, j, c :: rest =>
    let pairs := min c.removed c.added
    let changed := (List.range pairs).flatMap fun n =>
      besideText m.width '|' a[c.first + n]? b[c.second + n]?
    let removed := (List.range (c.removed - pairs)).flatMap fun n =>
      besideText m.width '<' a[c.first + pairs + n]? none
    let added := (List.range (c.added - pairs)).flatMap fun n =>
      besideText m.width '>' none b[c.second + pairs + n]?
    same i j (c.first - i) ++ changed ++ removed ++ added ++
      besideRows m a b (c.first + c.removed) (c.second + c.added) rest
where
  /-- Lines that are the same in both files. -/
  same (i j count : Nat) : List Char :=
    if m.onlyChanges then []
    else if m.onlyLeft then
      (List.range count).flatMap fun n => besideText m.width '(' a[i + n]? none
    else (List.range count).flatMap fun n => besideText m.width ' ' a[i + n]? b[j + n]?

/-- The line that names a file above its changes. -/
def title (mark : String) (form : String) (label : Option String) (side : Side) : List Char :=
  (mark ++ " " ++ label.getD (side.name ++ "\t" ++ Calendar.format side.moment form) ++
    "\n").toList

/-- The changes between two files. -/
def report (m : Manner) (first second : Side) (all : List Text.Difference.Change) : List Char :=
  let a := rows first.text
  let b := rows second.text
  let counts := m.counts a b
  let counting := all.filter counts
  let grouped := fun (n : Nat) => (groups counts n all).filter fun group => group.any counts
  let exact := "%Y-%m-%d %H:%M:%S.000000000 %z"
  let plain := "%a %b %e %H:%M:%S %Y"
  match m.style with
  | .normal => counting.flatMap (normalText m a b)
  | .script => counting.reverse.flatMap (scriptText b)
  | .numbered => counting.flatMap (numberedText b)
  | .brief => []
  | .beside => besideRows m a b 0 0 all
  | .merged => merged m.forms a b all
  | .unified n =>
    title "---" exact m.labels[0]? first ++ title "+++" exact m.labels[1]? second ++
      (grouped n).flatMap (unifiedText m n a b)
  | .context n =>
    title "***" plain m.labels[0]? first ++ title "---" plain m.labels[1]? second ++
      (grouped n).flatMap (contextText m n a b)

/-- The name that a file is shown under. -/
def Manner.shownName (m : Manner) (place : Nat) (name : String) : String :=
  m.labels[place]?.getD name

/-- Tells how two files differ, below a line that names them both if `inFolders`, and gives the
status. -/
def tell (m : Manner) (inFolders : Bool) (first second : Side) : Act Nat := do
  let a := m.shownName 0 first.name
  let b := m.shownName 1 second.name
  let isBinary := !m.asText && (first.text.contains '\x00' || second.text.contains '\x00')
  let all := if first.text = second.text then []
    else m.changes (rows first.text) (rows second.text)
  let differs := if isBinary then first.text ≠ second.text
    else all.any (m.counts (rows first.text) (rows second.text))
  if !differs then
    if m.style = .beside || m.style = .merged then write (report m first second [])
    if m.tellsSame then writeLines ["Files " ++ a ++ " and " ++ b ++ " are identical"]
    pure 0
  else
    if m.style = .brief then writeLines ["Files " ++ a ++ " and " ++ b ++ " differ"]
    else if isBinary then writeLines ["Binary files " ++ a ++ " and " ++ b ++ " differ"]
    else
      if inFolders then
        writeLines [String.intercalate " " ("diff" :: m.given ++ [a, b])]
      write (report m first second all)
    pure 1

/-- Tells how two files differ, and of those whose last line has no end if the style has no way to
show it. -/
def tellAll (m : Manner) (inFolders : Bool) (first second : Side) : Act Nat := do
  let status ← tell m inFolders first second
  let cut := if m.style = .script then
      [(0, first), (1, second)].filter fun (_, side) =>
        !side.text.isEmpty && side.text.getLast? ≠ some '\n'
    else []
  forAll cut fun (n, side) =>
    complain (m.shownName n side.name ++ ": No newline at end of file\n")
  pure (if cut.isEmpty then status else 2)

/-- A file to compare, or why it cannot be read. One that is missing may count as empty. -/
def side (m : Manner) (name : String) : Act (Except FileError Side) := do
  let s ← get
  let moment := match s.facts name with
    | .ok facts => changed s facts
    | .error _ => 0
  match ← content name with
  | .ok text => pure (.ok ⟨name, text, moment⟩)
  | .error e => pure (if m.withNew && e = .notFound then .ok ⟨name, [], 0⟩ else .error e)

/-- Compares two files, and gives the status. -/
def compareFiles (m : Manner) (inFolders : Bool) (first second : String) : Act Nat := do
  match ← side m first, ← side m second with
  | .ok a, .ok b => tellAll m inFolders a b
  | a, b =>
    forAll [(first, a), (second, b)] fun (name, outcome) => match outcome with
      | .error e => complain (name ++ ": " ++ e.reason)
      | .ok _ => pure ()
    pure 2

/-- The path of a name in a folder. -/
def inside (folder name : String) : String :=
  if folder.endsWith "/" then folder ++ name else folder ++ "/" ++ name

/-- The names in a folder. -/
def namesIn (s : State) (folder : String) : List String :=
  match s.files.resolve s.folder folder with
  | .ok path => (s.files.children path).filterMap fun entry => entry.path.getLast?
  | .error _ => []

/-- A kind of file in words. -/
def kindWords (s : State) (name : String) : String :=
  if s.files.isFolder s.folder name then "directory"
  else
    match s.files.facts s.folder name with
    | .ok facts => if facts.size = 0 then "regular empty file" else "regular file"
    | .error _ => "regular file"

/-- Compares the files of two folders, to some depth, and gives the status. -/
def compareFolders (m : Manner) : Nat → String → String → Act Nat
  | 0, _, _ => pure 2
  | depth + 1, first, second => do
    let s ← get
    let isExcluded := fun (name : String) => m.excluded.any fun text =>
      (Pattern.ofGlyphs {} (text.toList.map fun c => ⟨c, false⟩)).matches? name.toList
    let a := (namesIn s first).filter (!isExcluded ·)
    let b := (namesIn s second).filter (!isExcluded ·)
    let all := ((a ++ b).eraseDups).mergeSort fun x y => x ≤ y
    all.foldlM (fun (status : Nat) name => do
      let x := inside first name
      let y := inside second name
      let only := if !a.contains name then some second else if !b.contains name then some first
        else none
      let xFolder := s.files.isFolder s.folder x
      let yFolder := s.files.isFolder s.folder y
      let found ← match only with
        | some folder =>
          if m.withNew then
            if xFolder || yFolder then
              if m.deep then compareFolders m depth x y
              else
                writeLines ["Common subdirectories: " ++ x ++ " and " ++ y]
                pure 0
            else compareFiles m true x y
          else
            writeLines ["Only in " ++ folder ++ ": " ++ name]
            pure 1
        | none =>
          if xFolder && yFolder then
            if m.deep then compareFolders m depth x y
            else
              writeLines ["Common subdirectories: " ++ x ++ " and " ++ y]
              pure 0
          else if xFolder || yFolder then
            let article := fun (name : String) => "File " ++ name ++ " is a " ++ kindWords s name
            let words := article x ++ " while file " ++ y ++ " is a " ++ kindWords s y
            writeLines [words]
            pure 1
          else compareFiles m true x y
      pure (max status found)) 0

/-- The options among some arguments, of which the operands are left out. -/
def withoutOperands : List String → List String → List String
  | [], _ => []
  | arg :: args, operands =>
    match operands with
    | operand :: rest =>
      if arg = operand then withoutOperands args rest else arg :: withoutOperands args operands
    | [] => arg :: withoutOperands args []

/-- The number that an option gives for the lines of context. -/
def contextOf (text : String) : Act Nat := do
  if text.isEmpty then pure 3
  else
    match text.toNat? with
    | some n => pure n
    | none => refuse ("invalid context length '" ++ text ++ "'")

/-- The letters that stand for the forms of groups and of lines, by their kinds. -/
def formLetters : List (Kind × Char × Char) :=
  [(.old, '(', '<'), (.new, ')', '>'), (.unchanged, '[', '='), (.changed, ']', '~')]

/-- The letter stands for a form of groups or of lines. -/
def isForm (c : Char) : Bool :=
  c = 'D' || c = '!' || formLetters.any fun (_, group, line) => c = group || (c = line && c ≠ '~')

/-- The forms that options give. -/
def formsOf (f : Found) : Forms :=
  let letters := fun (kind : Kind) => (formLetters.lookup kind).getD ('(', '<')
  .ofGiven
    (fun kind => (f.value? (letters kind).1).or ((f.value? 'D').bind fun name =>
      conditional name kind))
    (fun kind => (f.value? (letters kind).2).or (f.value? '!'))

/-- The style that options ask for, of which there must not be two. -/
def styleOf (f : Found) : Act Style := do
  let styles ← f.options.filterMapM fun (c, text) => do
    match c with
    | 'u' => pure (some (Style.unified 3))
    | 'U' => do pure (some (Style.unified (← contextOf text)))
    | 'c' => pure (some (Style.context 3))
    | 'p' => pure (if f.has 'u' || f.has 'U' then none else some (Style.context 3))
    | 'C' => do pure (some (Style.context (← contextOf text)))
    | 'e' => pure (some Style.script)
    | 'n' => pure (some Style.numbered)
    | 'y' => pure (some Style.beside)
    | 'o' => pure (some Style.normal)
    | _ => pure (if isForm c then some Style.merged else none)
  let kind := fun (style : Style) => match style with
    | .unified _ => 0
    | .context _ => 1
    | .script => 2
    | .numbered => 3
    | .beside => 4
    | .merged => 5
    | _ => 6
  let kinds := (styles.map kind).eraseDups
  if 1 < kinds.length then refuse "conflicting output style options"
  let most := styles.foldl (fun (n : Nat) style => match style with
    | .unified m | .context m => max n m
    | _ => n) 0
  let isGiven := f.options.any fun (c, text) => (c = 'U' || c = 'C') && !text.isEmpty
  let most := match digitsOf (f.options.map (·.1)) with
    | some n => if isGiven then max n most else n
    | none => most
  pure (if f.has 'q' then .brief
    else match styles.getLast? with
      | some (.unified _) => .unified most
      | some (.context _) => .context most
      | some style => style
      | none => .normal)

/-- Compares two files by their lines, or the files of two folders. -/
def lines (args : List String) : Act Unit := do
  let f ← optionsOf {
    letters := "abBcC:dD:eEF:HiI:L:nNpPqrstTuU:wW:x:yZ0123456789"
    names := [("text", 'a', .nothing), ("ignore-space-change", 'b', .nothing),
      ("ignore-blank-lines", 'B', .nothing), ("context", 'C', .perhaps),
      ("minimal", 'd', .nothing), ("ed", 'e', .nothing), ("ignore-case", 'i', .nothing),
      ("label", 'L', .value), ("rcs", 'n', .nothing), ("new-file", 'N', .nothing),
      ("brief", 'q', .nothing), ("recursive", 'r', .nothing),
      ("report-identical-files", 's', .nothing), ("unified", 'U', .perhaps),
      ("ignore-all-space", 'w', .nothing), ("width", 'W', .value), ("exclude", 'x', .value),
      ("side-by-side", 'y', .nothing), ("ignore-trailing-space", 'Z', .nothing),
      ("normal", 'o', .nothing), ("strip-trailing-cr", 'R', .nothing),
      ("suppress-common-lines", 'S', .nothing), ("color", 'k', .perhaps),
      ("left-column", 'l', .nothing), ("horizon-lines", 'h', .value),
      ("speed-large-files", 'H', .nothing),
      ("show-c-function", 'p', .nothing), ("show-function-line", 'F', .value),
      ("ignore-matching-lines", 'I', .value), ("ifdef", 'D', .value),
      ("expand-tabs", 't', .nothing), ("initial-tab", 'T', .nothing),
      ("ignore-tab-expansion", 'E', .nothing), ("unidirectional-new-file", 'P', .nothing),
      ("old-group-format", '(', .value), ("new-group-format", ')', .value),
      ("unchanged-group-format", '[', .value), ("changed-group-format", ']', .value),
      ("old-line-format", '<', .value), ("new-line-format", '>', .value),
      ("unchanged-line-format", '=', .value), ("line-format", '!', .value)] } args
  let style ← styleOf f
  let (first, second) ← twoOperands f "diff" List.head?
  let pattern := fun (text : String) => do
    match Regex.read {} text.toList with
    | .ok regex => pure regex
    | .error e =>
      complain (text ++ ": " ++ e.message)
      finish 2
      throw .exit
  let headings ← ((f.value? 'F').or
    (if f.has 'p' then some "^[[:alpha:]$_]" else none)).mapM pattern
  let ignored ← (f.values 'I').mapM pattern
  let m : Manner := {
    style, headings, ignored,
    foldCase := f.has 'i', noBlanks := f.has 'w', anyBlanks := f.has 'b'
    noTrailing := f.has 'Z', noReturns := f.has 'R', noEmpty := f.has 'B', asText := f.has 'a'
    tellsSame := f.has 's', deep := f.has 'r', withNew := f.has 'N', labels := f.values 'L'
    excluded := f.values 'x', width := ((f.value? 'W').bind String.toNat?).getD 130
    noTabs := f.has 't', initialTab := f.has 'T', forms := formsOf f, sameTabs := f.has 'E'
    onlyChanges := f.has 'S', onlyLeft := f.has 'l'
    horizon := ((f.value? 'h').bind String.toNat?).getD 0
    given := withoutOperands args f.operands }
  let s ← get
  let base := fun (name : String) => (((name.toList.splitOn '/').filter (!·.isEmpty)).getLast?).elim
    name String.ofList
  let firstFolder := s.files.isFolder s.folder first
  let secondFolder := s.files.isFolder s.folder second
  let isMissing := fun (name : String) => name ≠ "-" && !(s.facts name).isOk
  let status ←
    if first = second && !isMissing first && m.style ≠ .merged &&
        (m.style ≠ .beside || m.onlyChanges) then
      if m.tellsSame && !firstFolder then
        writeLines ["Files " ++ first ++ " and " ++ second ++ " are identical"]
      pure 0
    else if firstFolder && (secondFolder || m.withNew && isMissing second) ||
        secondFolder && m.withNew && isMissing first then compareFolders m 60 first second
    else if isMissing first || isMissing second then
      let missing := [first, second].filter isMissing
      if m.withNew && missing.length = 1 then compareFiles m false first second
      else
        forAll missing fun name => complain (name ++ ": No such file or directory")
        pure 2
    else if firstFolder || secondFolder then
      if first = "-" || second = "-" then
        complain "cannot compare '-' to a directory"
        pure 2
      else if firstFolder then compareFiles m false (inside first (base second)) second
      else compareFiles m false first (inside second (base first))
    else compareFiles m false first second
  finish status

end RemoteAttach.Tool.Compare
