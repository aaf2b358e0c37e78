import RemoteAttach.Shell.Arithmetic
import RemoteAttach.Shell.Source

/-! Braces in words: a word with alternatives, or with a row of numbers or letters, stands for
several words. Only the larger shell reads them. -/

namespace RemoteAttach.Shell.Braces

/-- A piece of a word: a character that is not quoted, or any other part. -/
inductive Piece where
  | char (c : Char)
  | part (p : Part)

/-- The pieces of a word. -/
def pieces (word : Word) : List Piece :=
  word.flatMap fun p => match p with
    | .literal text false => text.map .char
    | p => [.part p]

/-- The word that some pieces make. -/
def wordOf (pieces : List Piece) : Word :=
  pieces.foldr (fun piece word => match piece with
    | .char c => Reading.consPart (.literal [c] false) word
    | .part p => p :: word) []

/-- The alternatives up to the closing brace, and what follows it. `depth` counts the braces that
are open inside. -/
def alternatives (depth : Nat) : List Piece → Option (List (List Piece) × List Piece)
  | [] => none
  | piece :: rest =>
    let keep := fun (depth : Nat) => do
      let (found, after) ← alternatives depth rest
      match found with
      | first :: others => some ((piece :: first) :: others, after)
      | [] => some ([[piece]], after)
    match piece, depth with
    | .char '\x7b', _ => keep (depth + 1)
    | .char '\x7d', 0 => some ([[]], rest)
    | .char '\x7d', depth + 1 => keep depth
    | .char ',', 0 => do
      let (found, after) ← alternatives 0 rest
      some ([] :: found, after)
    | _, _ => keep depth

/-- The text of pieces that are all characters. -/
def textOf (pieces : List Piece) : Option (List Char) :=
  pieces.mapM fun piece => match piece with
    | .char c => some c
    | .part _ => none

/-- The texts between two points in a text. -/
def rangeParts : List Char → List (List Char)
  | [] => [[]]
  | '.' :: '.' :: rest => [] :: rangeParts rest
  | c :: rest =>
    match rangeParts rest with
    | first :: others => (c :: first) :: others
    | [] => [[c]]

/-- The most words that a row may have. -/
def maxRow : Nat := 100000

/-- Whole numbers from one to another by steps. -/
def row (first last step : Int) : List Int :=
  let step := if step = 0 then 1 else step.natAbs
  let count := (last - first).natAbs / step + 1
  (List.range (min count maxRow)).map fun (n : Nat) =>
    if first ≤ last then first + n * step else first - n * step

/-- A number with zeros in front of it up to a width. -/
def filled (width : Nat) (n : Int) : List Char :=
  let digits := (toString n.natAbs).toList
  let sign := if n < 0 then ['-'] else []
  sign ++ List.replicate (width - sign.length - digits.length) '0' ++ digits

/-- A number is written with a zero that does not count. -/
def hasZero (text : List Char) : Bool :=
  match text with
  | '-' :: '0' :: _ :: _ => true
  | '0' :: _ :: _ => true
  | _ => false

/-- A whole number. -/
def number? (text : List Char) : Option Int :=
  let digits := match text with
    | '-' :: rest | '+' :: rest => rest
    | _ => text
  if digits.isEmpty || !digits.all Char.isDigit then none
  else Sum.legal? (String.ofList text)

/-- The texts that a row in braces stands for. -/
def range? (text : List Char) : Option (List (List Char)) := do
  let (first, last, step) ← match rangeParts text with
    | [first, last] => some (first, last, 1)
    | [first, last, step] => (number? step).map fun step => (first, last, step)
    | _ => none
  match number? first, number? last, first, last with
  | some a, some b, _, _ =>
    let width := if hasZero first || hasZero last then max first.length last.length else 0
    some ((row a b step).map (filled width))
  | _, _, [a], [b] =>
    if a.isAlpha && b.isAlpha then
      some ((row a.toNat b.toNat step).map fun n => [Char.ofNat n.toNat])
    else none
  | _, _, _, _ => none

/-- The words that some pieces stand for, up to some number of braces. -/
def expandFrom : Nat → List Piece → List (List Piece)
  | 0, all => [all]
  | _, [] => [[]]
  | fuel + 1, .char '\x7b' :: rest =>
    match alternatives 0 rest with
    | none => (expandFrom fuel rest).map (.char '\x7b' :: ·)
    | some ([only], after) =>
      match (textOf only).bind range? with
      | some texts =>
        let ends := expandFrom fuel after
        texts.flatMap fun text => ends.map (text.map .char ++ ·)
      | none => (expandFrom fuel rest).map (.char '\x7b' :: ·)
    | some (found, after) =>
      let ends := expandFrom fuel after
      (found.flatMap (expandFrom fuel)).flatMap fun start => ends.map (start ++ ·)
  | fuel + 1, piece :: rest => (expandFrom fuel rest).map (piece :: ·)

/-- The words that a word with braces stands for. -/
def expand (word : Word) : List Word :=
  let all := pieces word
  let isOpen := all.any fun piece => match piece with
    | .char c => c = '\x7b'
    | .part _ => false
  if isOpen then (expandFrom (all.length + 1) all).map wordOf else [word]

end RemoteAttach.Shell.Braces
