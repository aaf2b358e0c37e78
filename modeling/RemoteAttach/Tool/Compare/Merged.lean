import RemoteAttach.Text.Difference
import RemoteAttach.Text.Numeral
import RemoteAttach.Tool.Basic

/-! Two files in one output: every group of lines, whether the files share it or not, is written in
a form of its own, and so is every line. -/

namespace RemoteAttach.Tool.Compare

/-- A line of a text, and whether it has no end. -/
abbrev Row := List Char × Bool

/-- The kinds of groups of lines. -/
inductive Kind where
  | unchanged
  | old
  | new
  | changed
  deriving DecidableEq, Repr

/-- The forms of groups and of lines, by their kinds. A changed line has the form of an old or a new
one. -/
structure Forms where
  groups : Kind → List Char
  lines : Kind → List Char

/-- Some lines of two files: the first of them, and the one behind them, in each file. -/
structure Group where
  start : Nat
  stop : Nat
  newStart : Nat
  newStop : Nat

namespace Group

/-- The number that a letter stands for, for the lines of a group: the numbers of the first and the
last one, of those before and behind them, and how many they are. Great letters are about the new
file. -/
def number? (g : Group) (c : Char) : Option Nat :=
  let (start, stop) := if c.isUpper then (g.newStart, g.newStop) else (g.start, g.stop)
  match c.toLower with
  | 'e' => some start
  | 'f' => some (start + 1)
  | 'l' => some stop
  | 'm' => some (stop + 1)
  | 'n' => some (stop - start)
  | _ => none

end Group

/-- A number that a form asks for in a width, with so many digits at least, and the letter for what
is numbered, with what follows it. -/
def numberForm? (text : List Char) :
    Option ((Bool × Nat × Nat) × Nat × Bool × Char × List Char) := do
  let left := text.head? = some '-'
  let text := if left then text.drop 1 else text
  let width := text.takeWhile Char.isDigit
  let text := text.drop width.length
  let digits := match text with
    | '.' :: rest => rest.takeWhile Char.isDigit
    | _ => []
  let text := if text.head? = some '.' then text.drop (digits.length + 1) else text
  match text with
  | base :: c :: rest =>
    let radix ← match base with
      | 'd' => some 10
      | 'o' => some 8
      | 'x' | 'X' => some 16
      | _ => none
    let value := fun (text : List Char) => (Text.digitsAfter 10 0 text).getD 0
    some ((left, value width, value digits), radix, base = 'X', c, rest)
  | _ => none

/-- The text of a number in a form. -/
def numberText (layout : Bool × Nat × Nat) (radix : Nat) (great : Bool) (n : Nat) : List Char :=
  let (left, width, least) := layout
  let digits := Nat.toDigits radix n
  let digits := if great then digits.map Char.toUpper else digits
  let digits := List.replicate (least - digits.length) '0' ++ digits
  let room := List.replicate (width - digits.length) ' '
  if left then digits ++ room else room ++ digits

/-- The character that stands between quotes in a form, in itself or as an octal number, and what
follows it. -/
def quotedChar? : List Char → Option (Char × List Char)
  | '\'' :: '\\' :: rest =>
    let digits := (rest.take 3).takeWhile fun c => '0' ≤ c && c ≤ '7'
    match rest.drop digits.length with
    | '\'' :: rest => some (Char.ofNat ((Text.digitsAfter 8 0 digits).getD 0 % 256), rest)
    | _ => none
  | '\'' :: c :: '\'' :: rest => some (c, rest)
  | _ => none

/-- A line in a form, which may hold its text with its end or without it, and its number. -/
def lineText (number : Nat) (row : Row) : Nat → List Char → List Char
  | 0, _ => []
  | _, [] => []
  | fuel + 1, '%' :: rest =>
    match rest with
    | '%' :: rest => '%' :: lineText number row fuel rest
    | 'l' :: rest => row.1 ++ lineText number row fuel rest
    | 'L' :: rest => row.1 ++ (if row.2 then [] else ['\n']) ++ lineText number row fuel rest
    | 'c' :: rest =>
      match quotedChar? rest with
      | some (c, rest) => c :: lineText number row fuel rest
      | none => '%' :: 'c' :: lineText number row fuel rest
    | rest =>
      match numberForm? rest with
      | some (layout, radix, great, 'n', rest) =>
        numberText layout radix great number ++ lineText number row fuel rest
      | _ => '%' :: lineText number row fuel rest
  | fuel + 1, c :: rest => c :: lineText number row fuel rest

/-- Some lines of a file in a form. -/
def linesText (form : List Char) (rows : Array Row) (start stop : Nat) : List Char :=
  ((rows.extract start stop).toList.zipIdx (start + 1)).flatMap fun (row, n) =>
    lineText n row (form.length + 1) form

/-- One side of a comparison in a form, and what follows it. -/
def sideOf? (g : Group) (text : List Char) : Option (Nat × List Char) :=
  match text with
  | c :: rest =>
    if c.isDigit then
      let digits := text.takeWhile Char.isDigit
      some ((Text.digitsAfter 10 0 digits).getD 0, text.drop digits.length)
    else (g.number? c).map fun n => (n, rest)
  | [] => none

/-- The text up to a mark that stands in no further condition, and what follows that. -/
def partUntil (mark : Char) : Nat → List Char → List Char × List Char
  | _, [] => ([], [])
  | depth, '%' :: '(' :: rest =>
    let (part, rest) := partUntil mark (depth + 1) rest
    ('%' :: '(' :: part, rest)
  | depth, c :: rest =>
    if c = mark && depth = 0 then ([], rest)
    else
      let depth := if c = ')' then depth - 1 else depth
      let (part, rest) := partUntil mark depth rest
      (c :: part, rest)

/-- A group of lines in a form, which may hold the lines of the old file, of the new one or of both,
numbers, and parts of which one is taken by a condition. -/
def groupText (f : Forms) (old new : Array Row) (g : Group) : Nat → List Char → List Char
  | 0, _ => []
  | _, [] => []
  | fuel + 1, '%' :: rest =>
    let more := groupText f old new g fuel
    match rest with
    | '%' :: rest => '%' :: more rest
    | '<' :: rest => linesText (f.lines .old) old g.start g.stop ++ more rest
    | '>' :: rest => linesText (f.lines .new) new g.newStart g.newStop ++ more rest
    | '=' :: rest => linesText (f.lines .unchanged) old g.start g.stop ++ more rest
    | 'c' :: rest =>
      match quotedChar? rest with
      | some (c, rest) => c :: more rest
      | none => '%' :: 'c' :: more rest
    | '(' :: rest =>
      let choice : Option (List Char × List Char) := do
        let (a, rest) ← sideOf? g rest
        let rest ← if rest.head? = some '=' then some (rest.drop 1) else none
        let (b, rest) ← sideOf? g rest
        let rest ← if rest.head? = some '?' then some (rest.drop 1) else none
        let (yes, rest) := partUntil ':' 0 rest
        let (no, rest) := partUntil ')' 0 rest
        some (if a = b then yes else no, rest)
      match choice with
      | some (part, rest) => more part ++ more rest
      | none => '%' :: '(' :: more rest
    | rest =>
      match numberForm? rest with
      | some (layout, radix, great, c, rest) =>
        match g.number? c with
        | some n => numberText layout radix great n ++ more rest
        | none => '%' :: more rest
      | none => '%' :: more rest
  | fuel + 1, c :: rest => c :: groupText f old new g fuel rest

/-- The kind of a change. -/
def kindOf (c : Text.Difference.Change) : Kind :=
  if c.added = 0 then .old else if c.removed = 0 then .new else .changed

/-- Two files in one output, from some lines on. -/
def mergedFrom (f : Forms) (old new : Array Row) :
    Nat → Nat → List Text.Difference.Change → List Char
  | i, j, changes =>
    let shown := fun (kind : Kind) (g : Group) =>
      let form := f.groups kind
      groupText f old new g (form.length + 1) form
    match changes with
    | [] =>
      if i < old.size then shown .unchanged ⟨i, old.size, j, new.size⟩ else []
    | c :: rest =>
      (if i < c.first || j < c.second then shown .unchanged ⟨i, c.first, j, c.second⟩ else []) ++
        shown (kindOf c) ⟨c.first, c.first + c.removed, c.second, c.second + c.added⟩ ++
        mergedFrom f old new (c.first + c.removed) (c.second + c.added) rest

/-- Two files in one output. -/
def merged (f : Forms) (old new : Array Row) (changes : List Text.Difference.Change) :
    List Char :=
  mergedFrom f old new 0 0 changes

/-- The forms that some options give, by the names of the kinds, with what stands for the others. -/
def Forms.ofGiven (groups lines : Kind → Option String) : Forms :=
  let chars := fun (text : Option String) (usual : List Char) => text.elim usual String.toList
  let old := chars ((groups .old).or (groups .changed)) ['%', '<']
  let new := chars ((groups .new).or (groups .changed)) ['%', '>']
  { groups := fun kind => match kind with
      | .unchanged => chars (groups .unchanged) ['%', '=']
      | .old => old
      | .new => new
      | .changed => chars (groups .changed) (old ++ new)
    lines := fun kind => chars (lines kind) ['%', 'l', '\n'] }

/-- The forms of groups in which a name tells the two files apart for a preprocessor. -/
def conditional (name : String) (kind : Kind) : Option String :=
  match kind with
  | .unchanged => some "%="
  | .old => some ("#ifndef " ++ name ++ "\n%<#endif /* ! " ++ name ++ " */\n")
  | .new => some ("#ifdef " ++ name ++ "\n%>#endif /* " ++ name ++ " */\n")
  | .changed =>
    some ("#ifndef " ++ name ++ "\n%<#else /* " ++ name ++ " */\n%>#endif /* " ++ name ++ " */\n")

end RemoteAttach.Tool.Compare
