import RemoteAttach.Tool.Basic

/-! Programs that put words and lines into another order: one in which the first word of each pair
stands before the second, or any order at all. -/

namespace RemoteAttach.Tool

open Shell Act

/-- A word that is to be ordered. -/
structure Ranked where
  name : String
  /-- How many words have to stand before it. -/
  waits : Nat := 0
  /-- The words that have to stand behind it, the latest pair first. -/
  behind : List String := []

/-- Words that are to be ordered, in the order of their characters. -/
abbrev Ranking := List Ranked

namespace Ranking

/-- The words with one more among them. -/
def insert (name : String) : Ranking → Ranking
  | [] => [{ name }]
  | w :: rest =>
    if w.name = name then w :: rest
    else if name < w.name then { name } :: w :: rest
    else w :: insert name rest

/-- The words with one of them changed. -/
def change (r : Ranking) (name : String) (f : Ranked → Ranked) : Ranking :=
  r.map fun w => if w.name = name then f w else w

/-- The words with the pairs of a list. A word may be paired with itself, which says nothing. -/
def ofPairs (r : Ranking) : List String → Ranking
  | first :: second :: rest =>
    let r := (r.insert first).insert second
    let r := if first = second then r
      else (r.change first fun w => { w with behind := second :: w.behind }).change second
        fun w => { w with waits := w.waits + 1 }
    r.ofPairs rest
  | _ => r

/-- Takes words off that wait for nothing, from a queue of their names. Those that then wait for
nothing join it. -/
def release : Nat → Ranking → List String → List String × Ranking
  | 0, r, _ => ([], r)
  | _, r, [] => ([], r)
  | fuel + 1, r, name :: queue =>
    let behind := ((r.find? (·.name = name)).map (·.behind)).getD []
    let left := r.filter (·.name ≠ name)
    let (left, queue) := behind.foldl (fun (left, queue) next =>
      let left := change left next fun w => { w with waits := w.waits - 1 }
      let isFree := (left.find? (·.name = next)).any (·.waits = 0)
      (left, if isFree then queue ++ [next] else queue)) (left, queue)
    let (done, left) := release fuel left queue
    (name :: done, left)

/-- How far a walk against the pairs has come that is to find a circle. -/
structure Chase where
  /-- The word that has been reached. -/
  top : Option String := none
  /-- For each word that has been reached the one before it. -/
  links : List (String × String) := []
  /-- The word at which the circle closes, and the one behind it. -/
  closed : Option (String × String) := none

/-- The walk with a look at one word: a word is reached if the last one stands behind it. -/
def Chase.look (c : Chase) (w : Ranked) : Chase :=
  match c.closed, c.top with
  | some _, _ => c
  | none, none => { c with top := some w.name }
  | none, some top =>
    if !w.behind.contains top then c
    else if (c.links.lookup w.name).isSome then { c with closed := some (w.name, top) }
    else { c with top := some w.name, links := (w.name, top) :: c.links }

/-- The words from one of them on along the links of a walk, up to another one. -/
def Chase.members (c : Chase) (last : String) : Nat → String → List String
  | 0, _ => []
  | fuel + 1, name =>
    if name = last then [name]
    else
      match c.links.lookup name with
      | some next => name :: c.members last fuel next
      | none => [name]

/-- The words of a circle, and the words without the pair that closes it. -/
def breakCircle (r : Ranking) : Nat → Chase → List String × Ranking
  | 0, _ => ([], [])
  | fuel + 1, c =>
    let c := r.foldl Chase.look c
    match c.closed with
    | none => r.breakCircle fuel c
    | some (last, top) =>
      (c.members last (r.length + 1) top,
        (r.change last fun w => { w with behind := w.behind.erase top }).change top
          fun w => { w with waits := w.waits - 1 })

/-- The words in order, in parts; behind each part but the last stand the words of a circle that had
to be broken. -/
def parts : Nat → Ranking → List (List String × List String)
  | 0, _ => []
  | fuel + 1, r =>
    let (done, left) := release (r.length + 1) r ((r.filter (·.waits = 0)).map (·.name))
    if left.isEmpty then [(done, [])]
    else
      let (circle, left) := left.breakCircle (left.length + 2) {}
      (done, circle) :: parts fuel left

end Ranking

/-- Writes words in an order that keeps the pairs of a file. -/
def tsort (args : List String) : Act Unit := do
  let f ← options { letters := "" } args
  match f.operands with
  | _ :: extra :: _ => misuse ("extra operand " ++ cited extra)
  | _ => pure ()
  let operand := f.operands.headD "-"
  match ← content operand with
  | .error .isDirectory =>
    deplore (shown operand ++ ": read error: " ++ FileError.isDirectory.reason)
  | .error .notOpen => deplore (operand ++ ": read error: " ++ FileError.notOpen.reason)
  | .error e => deploreFile operand e
  | .ok text =>
    let isBlank := fun (c : Char) => c = ' ' || c = '\t' || c = '\n'
    let words := ((text.splitBy fun a b => isBlank a = isBlank b).filter fun word =>
      !word.any isBlank).map String.ofList
    if words.length % 2 = 1 then
      fail (shown operand ++ ": input contains an odd number of tokens")
    else
      forAll (Ranking.parts (words.length + 1) (Ranking.ofPairs [] words)) fun (done, circle) => do
        writeLines done
        if !circle.isEmpty then
          complain (shown operand ++ ": input contains a loop:")
          forAll circle complain
          finish 1

/-- The numbers from a first one to a last one, if a text means them. -/
def span? (text : String) : Option (Nat × Nat) :=
  match text.splitOn "-" with
  | [first, last] => do
    let a ← first.toNat?
    let b ← last.toNat?
    if a ≤ b + 1 then some (a, b) else none
  | _ => none

/-- The lines that are to be put in any order, each with its mark. -/
def shuffled (f : Found) (mark : Char) : Act (List (List Char)) := do
  let spans := f.values 'i'
  if 1 < spans.length then fail "multiple -i options specified"
  let span ← spans.head?.mapM fun text =>
    match span? text with
    | some span => pure span
    | none => fail ("invalid input range: " ++ cited text)
  match span, f.has 'e', f.operands with
  | some _, true, _ => misuse "cannot combine -e and -i options"
  | some (a, b), false, [] =>
    pure ((List.range (b + 1 - a)).map fun n => (toString (a + n)).toList ++ [mark])
  | some _, false, extra :: _ => misuse ("extra operand " ++ cited extra)
  | none, true, operands => pure (operands.map fun word => word.toList ++ [mark])
  | none, false, _ :: extra :: _ => misuse ("extra operand " ++ cited extra)
  | none, false, operands =>
    let operand := operands.headD "-"
    match ← content operand with
    | .error .isDirectory => fail ("read error: " ++ FileError.isDirectory.reason)
    | .error .notOpen => fail ("read error: " ++ FileError.notOpen.reason)
    | .error e => fail (shown operand ++ ": " ++ e.reason)
    | .ok text => pure ((Text.allLines text mark).map (· ++ [mark]))

/-- Writes lines in any order, for which the one that they have is as good as another. -/
def shuf (args : List String) : Act Unit := do
  let f ← options {
    letters := "ei:n:o:rz"
    names := [("echo", 'e', .nothing), ("input-range", 'i', .value), ("head-count", 'n', .value),
      ("output", 'o', .value), ("random-source", 'R', .value), ("repeat", 'r', .nothing),
      ("zero-terminated", 'z', .nothing)] } args
  let counts ← (f.values 'n').mapM fun text =>
    match text.toNat? with
    | some n => pure n
    | none => fail ("invalid line count: " ++ cited text)
  let lines ← shuffled f (if f.has 'z' then '\x00' else '\n')
  let most := counts.min?
  if f.has 'r' then
    if lines.isEmpty && most ≠ some 0 then fail "no lines to repeat"
    let all := lines.toArray
    repeatWhile (fun (n : Nat) => do
      if most.any (· ≤ n) then pure none
      else
        write (all.getD (n % all.size) [])
        pure (some (n + 1))) 0
  else
    let kept := (lines.take (most.getD lines.length)).flatten
    match f.value? 'o' with
    | none => write kept
    | some name =>
      match ← save name kept with
      | .ok _ => pure ()
      | .error e => fail (shown name ++ ": " ++ e.reason)

end RemoteAttach.Tool
