import RemoteAttach.Text.Regex.Reader
import RemoteAttach.Tool.Basic

/-! The program that numbers the lines of files. A file is made of pages with a head, a body and a
foot, which begin after lines of their own; each part has its own style. -/

namespace RemoteAttach.Tool.Numbering

open Shell Act

/-- The parts of a page. -/
inductive Section where
  | head
  | body
  | foot
  deriving DecidableEq, Repr

/-- The words for a part. -/
def Section.title : Section → String
  | .head => "header"
  | .body => "body"
  | .foot => "footer"

/-- Which lines have numbers. -/
inductive Style where
  | all
  | filled
  | none
  /-- Those in which an expression occurs. -/
  | having (pattern : Regex)

/-- The style that a text means. -/
def style (text : String) : Except String (Option Style) :=
  match text.toList with
  | 'a' :: _ => .ok (some .all)
  | 't' :: _ => .ok (some .filled)
  | 'n' :: _ => .ok (some .none)
  | 'p' :: pattern =>
    ((Regex.read { emptyRanges := true } pattern).map (some ∘ .having)).mapError (·.message)
  | _ => .ok Option.none

/-- How a number stands in its width. -/
inductive Justification where
  | left
  | right
  /-- On the right, with zeros before it. -/
  | zeros
  deriving DecidableEq, Repr

/-- The text of a number. -/
def Justification.text (j : Justification) (width : Nat) (n : Int) : String :=
  match j with
  | .left => padRight width (toString n)
  | .right => padLeft width (toString n)
  | .zeros =>
    let sign := if n < 0 then "-" else ""
    let digits := toString n.natAbs
    sign ++ String.ofList (List.replicate (width - sign.length - digits.length) '0') ++ digits

/-- How lines are numbered. -/
structure Form where
  head : Style := .none
  body : Style := .filled
  foot : Style := .none
  /-- The text that, twice, begins a body. -/
  mark : List Char := ['\\', ':']
  start : Int := 1
  step : Int := 1
  /-- The numbers begin again with each part. -/
  restarts : Bool := true
  /-- Of so many empty lines together the last one has a number. -/
  joined : Nat := 1
  separator : String := "\t"
  width : Nat := 6
  justification : Justification := .right

/-- The style of a part. -/
def Form.style (f : Form) : Section → Style
  | .head => f.head
  | .body => f.body
  | .foot => f.foot

/-- The part that a line begins. -/
def Form.section? (f : Form) (line : List Char) : Option Section :=
  if f.mark.length < 2 then none
  else if line = f.mark ++ f.mark ++ f.mark then some .head
  else if line = f.mark ++ f.mark then some .body
  else if line = f.mark then some .foot
  else none

/-- What is known between two lines. -/
structure Progress where
  part : Section := .body
  number : Int
  /-- The empty lines that have gone by without a number. -/
  empty : Nat := 0

/-- The line has a number, and how many empty lines have then gone by. -/
def Form.counts (f : Form) (p : Progress) (line : List Char) : Bool × Nat :=
  match f.style p.part with
  | .none => (false, p.empty)
  | .filled => (!line.isEmpty, p.empty)
  | .having pattern => (pattern.occursIn line.toArray, p.empty)
  | .all =>
    if f.joined ≤ 1 then (true, p.empty)
    else if line.isEmpty && p.empty + 1 ≠ f.joined then (false, p.empty + 1)
    else (true, 0)

/-- What is written for a line. -/
def Form.step' (f : Form) (p : Progress) (line : List Char) : List Char × Progress :=
  match f.section? line with
  | some part => (['\n'], { p with part, number := if f.restarts then f.start else p.number })
  | none =>
    let (counted, empty) := f.counts p line
    let start := if counted then (f.justification.text f.width p.number ++ f.separator).toList
      else List.replicate (f.width + f.separator.length) ' '
    (start ++ line ++ ['\n'],
      { p with empty, number := if counted then p.number + f.step else p.number })

/-- What is written for some lines, with what is known after them. -/
def Form.run (f : Form) (p : Progress) (lines : List (List Char)) : List Char × Progress :=
  let (done, p) := lines.foldl (fun (done, p) line =>
    let (text, p) := f.step' p line
    (text :: done, p)) ([], p)
  (done.reverse.flatten, p)

/-- The style of a part that an option gives, and whether it is one. -/
def takeStyle (part : Section) (text : String) (usual : Style) : Act (Style × Bool) := do
  match style text with
  | .ok (some style) => pure (style, true)
  | .ok .none =>
    complain ("invalid " ++ part.title ++ " numbering style: " ++ cited text)
    pure (usual, false)
  | .error words => fail words

/-- The form that an option changes another one to, and whether nothing is wrong so far. -/
def Form.take (state : Form × Bool) (option : Char × String) : Act (Form × Bool) := do
  let (f, right) := state
  let (letter, text) := option
  match letter with
  | 'h' =>
    let (head, valid) ← takeStyle .head text f.head
    pure ({ f with head }, right && valid)
  | 'b' =>
    let (body, valid) ← takeStyle .body text f.body
    pure ({ f with body }, right && valid)
  | 'f' =>
    let (foot, valid) ← takeStyle .foot text f.foot
    pure ({ f with foot }, right && valid)
  | 'v' =>
    let start ← wholeNumber "invalid starting line number" none none text
    pure ({ f with start }, right)
  | 'i' =>
    let step ← wholeNumber "invalid line number increment" none none text
    pure ({ f with step }, right)
  | 'p' => pure ({ f with restarts := false }, right)
  | 'l' =>
    let n ← wholeNumber "invalid line number of blank lines" (some 1) none text
    pure ({ f with joined := n.toNat }, right)
  | 's' => pure ({ f with separator := text }, right)
  | 'w' =>
    let n ← wholeNumber "invalid line number field width" (some 1) (some 2147483647) text
    pure ({ f with width := n.toNat }, right)
  | 'n' =>
    match text with
    | "ln" => pure ({ f with justification := .left }, right)
    | "rn" => pure ({ f with justification := .right }, right)
    | "rz" => pure ({ f with justification := .zeros }, right)
    | _ =>
      complain ("invalid line numbering format: " ++ cited text)
      pure (f, false)
  | _ =>
    match text.toList with
    | [c] => pure ({ f with mark := c :: f.mark.drop 1 }, right)
    | mark => pure ({ f with mark }, right)

/-- Numbers the lines of files. -/
def run (args : List String) : Act Unit := do
  let start : Form × Bool := ({}, true)
  let (found, fault) ← optionsSoFar {
    letters := "h:b:f:v:i:pl:s:w:n:d:"
    names := [("header-numbering", 'h', .value), ("body-numbering", 'b', .value),
      ("footer-numbering", 'f', .value), ("starting-line-number", 'v', .value),
      ("line-increment", 'i', .value), ("no-renumber", 'p', .nothing),
      ("join-blank-lines", 'l', .value), ("number-separator", 's', .value),
      ("number-width", 'w', .value), ("number-format", 'n', .value),
      ("section-delimiter", 'd', .value)] } args
  let (f, right) ← found.options.foldlM Form.take start
  if let some text := fault then complain text
  if !right || fault.isSome then hint
  let _ ← (orInput found.operands).foldlM (fun (p : Progress) operand => do
    match ← content operand with
    | .error e =>
      deploreFile operand e
      pure p
    | .ok text =>
      let (output, p) := f.run p (Text.allLines text)
      write output
      pure p) { number := f.start }
  closeInput "-" (orInput found.operands)

end RemoteAttach.Tool.Numbering
