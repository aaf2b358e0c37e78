import RemoteAttach.Shell.State

/-! The menu that the larger shell shows of the words that one is to be picked from. Its columns are
as wide as the longest word wants, and tabs stand between them where they fit. -/

namespace RemoteAttach.Shell.Menu

/-- The number of digits of a number. -/
def digits (n : Nat) : Nat :=
  (toString n).length

/-- Tabs and blanks from one column up to another. -/
def gapFrom : Nat → Nat → Nat → List Char
  | 0, _, _ => []
  | fuel + 1, start, stop =>
    if stop ≤ start then []
    else if start / 8 < stop / 8 then '\t' :: gapFrom fuel (start + 8 - start % 8) stop
    else ' ' :: gapFrom fuel (start + 1) stop

/-- Tabs and blanks from one column up to another. -/
def gap (start stop : Nat) : List Char :=
  gapFrom (stop - start) start stop

/-- The number of lines of a menu of some words on a screen of 80 columns, and the width of a
column. -/
def shape (words : List String) : Nat × Nat :=
  let count := words.length
  let widest := (words.map (·.length)).foldl max 0 + digits count + 4
  let share := fun (n d : Nat) => (n + d - 1) / d
  let columns := max 1 (80 / widest)
  let rows := share count columns
  (if rows = 1 then share count rows else rows, widest)

/-- The items of a line, each behind the gap after the one before it. -/
def cellsFrom (rows widest count : Nat) (position : Nat) : List (Nat × String) → List Char
  | [] => []
  | (index, word) :: rest =>
    let width := if position = 0 then digits rows else digits count
    let number := toString (index + 1)
    let blanks := List.replicate (width - number.length) ' '
    let cell := blanks ++ number.toList ++ [')', ' '] ++ word.toList
    let after := position + word.length + width + 2
    cell ++ (if rest.isEmpty then [] else gap after (position + widest)) ++
      cellsFrom rows widest count (position + widest) rest

/-- The lines of a menu of some words. -/
def text (words : List String) : List Char :=
  let (rows, widest) := shape words
  let indexed := words.zipIdx.map fun (word, n) => (n, word)
  (List.range rows).flatMap fun row =>
    cellsFrom rows widest words.length 0 (indexed.filter fun (n, _) => n % rows = row) ++ ['\n']

end RemoteAttach.Shell.Menu
