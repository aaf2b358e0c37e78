import RemoteAttach.Tool.Basic

/-! Paragraphs of text in lines of about the same length. Each way to break a paragraph has a cost,
and the cheapest one is taken: lines are to come close to a width and to the lines beside them, and
to end with sentences rather than just after their first word. -/

namespace RemoteAttach.Tool.Paragraph

open Shell Act

/-- A word of a paragraph. -/
structure Piece where
  text : List Char
  /-- The number of blanks behind it. -/
  space : Nat
  opens : Bool
  punctuated : Bool
  /-- It ends in a mark that may end a sentence. -/
  stops : Bool
  /-- It ends a sentence. -/
  final : Bool

/-- The start of a line: the blanks before its mark, the column behind that, and the rest. -/
structure Row where
  indent : Nat
  column : Nat
  rest : List Char
  /-- The line ends with the file. -/
  isOpen : Bool

/-- How paragraphs are told from each other. -/
inductive Shape where
  | plain
  /-- Lines are only cut. -/
  | cut
  /-- The first two lines of a paragraph have indents of their own. -/
  | crown
  /-- As with a crown, but the two indents differ. -/
  | tagged
  deriving DecidableEq

/-- What a program that fills paragraphs has been told. -/
structure Form where
  width : Nat := 75
  goal : Nat := 70
  shape : Shape := .plain
  uniform : Bool := false
  lead : Nat := 0
  mark : List Char := []
  trail : Nat := 0
  /-- Indents are made of tabs. -/
  tabs : Bool := false

/-- The column behind blanks, and what follows them. -/
def skipBlanks : Nat → List Char → Nat × List Char
  | column, ' ' :: rest => skipBlanks (column + 1) rest
  | column, '\t' :: rest => skipBlanks ((column / 8 + 1) * 8) rest
  | column, rest => (column, rest)

/-- What is left of two texts after what they have in common, and how long that is. -/
def withoutCommon : List Char → List Char → Nat × List Char × List Char
  | a :: as, b :: bs =>
    if a = b then
      let (n, x, y) := withoutCommon as bs
      (n + 1, x, y)
    else (0, a :: as, b :: bs)
  | as, bs => (0, as, bs)

/-- The start of a line. -/
def Form.row (f : Form) (line : List Char) (isOpen : Bool) : Row :=
  let (column, rest) := skipBlanks 0 line
  if f.mark.isEmpty then ⟨min f.lead column, column, rest, isOpen⟩
  else
    let (count, missing, rest) := withoutCommon f.mark rest
    let indent := column
    if missing.isEmpty then
      let (column, rest) := skipBlanks (column + count) rest
      ⟨indent, column, rest, isOpen⟩
    else ⟨indent, column + count, rest, isOpen⟩

/-- The blanks from one column on. -/
def Form.blanks (f : Form) (column count : Nat) : List Char :=
  let target := column + count
  let tabbed := target / 8 * 8
  if f.tabs && column + 1 < tabbed then
    List.replicate (tabbed / 8 - column / 8) '\t' ++ List.replicate (target - tabbed) ' '
  else List.replicate count ' '

/-- A word with its marks. -/
def Piece.ofText (text : List Char) : Piece :=
  let last := (text.getLast?).getD ' '
  let inside := (text.drop 1).reverse.dropWhile ")]'\"".toList.contains
  let finish := inside.head?.orElse fun _ => text.head?
  { text, space := 0, final := false
    opens := text.head?.any "(['`\"".toList.contains
    punctuated := '!' ≤ last && last ≤ '~' && !last.isAlphanum
    stops := finish.any ".?!".toList.contains }

/-- The words of a line from a column on. -/
def Form.words (f : Form) (isOpen : Bool) : Nat → Nat → List Char → List Piece
  | 0, _, _ => []
  | fuel + 1, column, text =>
    let word := text.takeWhile fun c => !(c = ' ' || ('\t' ≤ c && c ≤ '\x0d'))
    let rest := text.drop word.length
    if word.isEmpty then
      match text with
      | [] => []
      | _ :: rest => f.words isOpen fuel (column + 1) rest
    else
      let start := column + word.length
      let (column, rest) := skipBlanks start rest
      let w := Piece.ofText word
      let ends := rest.isEmpty
      let final := ends && isOpen || w.stops && (ends || 1 < column - start)
      let space := if ends || f.uniform then (if final then 2 else 1) else column - start
      { w with space, final } :: f.words isOpen fuel column rest

/-- A line that belongs to no paragraph, as it is written. -/
def Form.copied (f : Form) (row : Row) : List Char :=
  if row.rest.isEmpty && row.column ≤ row.indent then ['\n']
  else
    let part := f.mark.take (row.column - row.indent)
    let behind := row.indent + part.length
    f.blanks 0 row.indent ++ part ++
      (if row.rest.isEmpty then [] else f.blanks behind (row.column - behind)) ++ row.rest ++ ['\n']

/-- The line begins or continues a paragraph. -/
def Form.isText (f : Form) (row : Row) : Bool :=
  !row.rest.isEmpty && f.lead ≤ row.indent && row.indent + f.mark.length + f.trail ≤ row.column

/-- The square of a number. -/
def square (n : Int) : Int := n * n

/-- The best way on from a word: what it costs, the length of its line, and the word that begins the
next one. -/
structure Way where
  cost : Int
  length : Nat
  next : Nat

/-- What a word costs at the start of a line. -/
def startCost (words : Array Piece) (i : Nat) : Int :=
  match words[i]? with
  | none => 0
  | some w =>
    let before := if i = 0 then none else words[i - 1]?
    let second := if i < 2 then none else words[i - 2]?
    let behind : Int := match before with
      | none => 0
      | some b =>
        if b.stops then (if b.final then -square 50 else square 600)
        else if b.punctuated then -square 40
        else if second.any (·.final) then square 200 / (b.text.length + 2)
        else 0
    let own : Int := if w.opens then -square 40
      else if w.final then square 150 / (w.text.length + 2)
      else 0
    square 70 + behind + own

/-- What a line of some length costs, before the word that begins the next one. -/
def Form.lineCost (f : Form) (count : Nat) (ways : Array Way) (next length : Nat) : Int :=
  if next = count then 0
  else
    let way := ways.getD next ⟨0, 0, count⟩
    square (10 * ((f.goal : Int) - length)) +
      (if way.next = count then 0 else square (10 * ((length : Int) - way.length)) / 2)

/-- The best end of a line that reaches up to a word, among those further on. -/
def Form.bestFrom (f : Form) (words : Array Piece) (ways : Array Way) :
    Nat → Nat → Nat → Option Way → Option Way
  | 0, _, _, best => best
  | fuel + 1, i, length, best =>
    let next := i + 1
    let cost := f.lineCost words.size ways next length +
      (if next = words.size then 0 else (ways.getD next ⟨0, 0, 0⟩).cost)
    let best := match best with
      | some way => if cost < way.cost then some ⟨cost, length, next⟩ else best
      | none => some ⟨cost, length, next⟩
    match words[i]?, words[next]? with
    | some w, some after =>
      let length := length + w.space + after.text.length
      if length < f.width then f.bestFrom words ways fuel next length best else best
    | _, _ => best

/-- The best ways on from all words of a paragraph whose first line and other lines have indents. -/
def Form.ways (f : Form) (first other : Nat) (words : Array Piece) : Array Way :=
  (List.range words.size).foldl (fun ways n =>
    let i := words.size - 1 - n
    let length := (if i = 0 then first else other) +
      ((words[i]?).map (·.text.length)).getD 0
    match f.bestFrom words ways (words.size + 1) i length none with
    | some way => ways.set! i { way with cost := way.cost + startCost words i }
    | none => ways) (Array.replicate words.size ⟨0, 0, words.size⟩)

/-- A line of words behind an indent. -/
def Form.line (f : Form) (indent column : Nat) (words : List Piece) : List Char :=
  let start := f.blanks 0 indent ++ f.mark
  let behind := indent + f.mark.length
  let (text, _) := words.zipIdx.foldl (fun (soFar : List Char × Nat) (w, n) =>
    let (text, column) := soFar
    let stop := column + w.text.length
    if n + 1 = words.length then (text ++ w.text, stop)
    else (text ++ w.text ++ f.blanks stop w.space, stop + w.space))
    (start ++ f.blanks behind (column - behind), column)
  text ++ ['\n']

/-- The lines of a paragraph. -/
def Form.lines (f : Form) (indent first other : Nat) (words : Array Piece) (ways : Array Way) :
    Nat → Nat → List Char
  | 0, _ => []
  | fuel + 1, i =>
    if words.size ≤ i then []
    else
      let next := max (i + 1) (ways.getD i ⟨0, 0, words.size⟩).next
      f.line indent (if i = 0 then first else other) (words.extract i next).toList ++
        f.lines indent first other words ways fuel next

/-- The lines that follow the first one of a paragraph. `other` is the indent they have. -/
def Form.following (f : Form) (first : Row) (other : Nat) (rows : List Row) : List Row :=
  let isSame := fun (row : Row) => f.isText row && row.indent = first.indent
  let run := rows.takeWhile fun row => isSame row && row.column = other
  match f.shape with
  | .cut => []
  | .plain | .crown => run
  | .tagged => if (rows.head?).any fun row => row.column = first.column then [] else run

/-- The indent of the lines after the first one of a paragraph. `before` is the one of the paragraph
before. -/
def Form.otherIndent (f : Form) (first : Row) (next : Option Row) (before : Nat) : Nat :=
  let next := next.filter fun row => f.isText row && row.indent = first.indent
  match f.shape, next with
  | .crown, some row => row.column
  | .tagged, some row =>
    if row.column ≠ first.column then row.column
    else if before = first.column then (if first.column = 0 then 3 else 0) else before
  | .tagged, none =>
    if before = first.column then (if first.column = 0 then 3 else 0) else before
  | _, _ => first.column

/-- The text of some lines with its paragraphs filled. -/
def Form.filled (f : Form) : Nat → Nat → List Row → List Char
  | 0, _, _ => []
  | _ + 1, _, [] => []
  | fuel + 1, before, row :: rest =>
    if !f.isText row then f.copied row ++ f.filled fuel before rest
    else
      let other := f.otherIndent row rest.head? before
      let more := f.following row other rest
      let words := (row :: more).flatMap fun row =>
        f.words row.isOpen (row.rest.length + 1) row.column row.rest
      let words := match words.getLast? with
        | some w => words.dropLast ++ [{ w with stops := true, final := true }]
        | none => words
      let words := words.toArray
      let ways := f.ways row.column other words
      f.lines row.indent row.column other words ways (words.size + 1) 0 ++
        f.filled fuel other (rest.drop more.length)

/-- A text with its paragraphs filled. -/
def Form.fill (f : Form) (text : List Char) : List Char :=
  let (lines, last) := Text.linesOf '\n' text
  let rows := lines.map (f.row · false) ++ (if last.isEmpty then [] else [f.row last true])
  let f := { f with tabs := text.contains '\t' }
  f.filled (rows.length + 1) 0 rows

/-- Fills the paragraphs of files. -/
def run (args : List String) : Act Unit := do
  let (old, args) := match args with
    | first :: rest =>
      match first.toList with
      | '-' :: c :: more =>
        if c.isDigit then (some (String.ofList (c :: more)), rest) else (none, args)
      | _ => (none, args)
    | [] => (none, args)
  let f ← options {
    letters := "ctsuw:p:g:"
    names := [("crown-margin", 'c', .nothing), ("prefix", 'p', .value),
      ("split-only", 's', .nothing), ("tagged-paragraph", 't', .nothing),
      ("uniform-spacing", 'u', .nothing), ("width", 'w', .value), ("goal", 'g', .value)] } args
  let number := fun (text : String) (most : Nat) => do
    match text.toNat? with
    | none => fail ("invalid width: " ++ cited text)
    | some n =>
      if most < n then
        fail ("invalid width: " ++ cited text ++ ": Numerical result out of range")
      else pure n
  let given ← ((f.value? 'w').or old).mapM fun text => number text 2500
  let goal ← (f.value? 'g').mapM fun text => number text (given.getD 75)
  let width := match given, goal with
    | some n, _ => n
    | none, some n => n + 10
    | none, none => 75
  let mark := ((f.value? 'p').getD "").toList
  let bare := mark.dropWhile (· = ' ')
  let inner := (bare.reverse.dropWhile (· = ' ')).reverse
  let form : Form := {
    width, goal := goal.getD (width * 187 / 200), uniform := f.has 'u'
    shape := if f.has 's' then .cut else if f.has 'c' then .crown
      else if f.has 't' then .tagged else .plain
    lead := mark.length - bare.length, mark := inner, trail := bare.length - inner.length }
  forAll (orInput f.operands) fun operand => do
    match ← content operand with
    | .error .isDirectory | .error .notOpen => deplore "read error"
    | .error e => deplore ("cannot open " ++ inQuotes operand ++ " for reading: " ++ e.reason)
    | .ok text => write (form.fill text)
  closeInput "closing standard input" (orInput f.operands)

end RemoteAttach.Tool.Paragraph
