import RemoteAttach.Tool.Child

/-! The program that cuts a file into pieces of the same size, or into a number of pieces, each of
which has a name of its own. -/

namespace RemoteAttach.Tool

open Shell Act

/-- The number that the digits among some options make up. -/
def digitsOf (options : List Char) : Option Nat :=
  let step := fun (soFar : Option Nat × Bool) (c : Char) =>
    if c.isDigit then
      let before := if soFar.2 then soFar.1.getD 0 else 0
      (some (10 * before + (c.toNat - '0'.toNat)), true)
    else (soFar.1, false)
  (options.foldl step (none, false)).1

/-- The digits of a number in some alphabet, to a length. -/
def digitsIn (alphabet : List Char) : Nat → Nat → List Char
  | 0, _ => []
  | length + 1, n =>
    digitsIn alphabet length (n / alphabet.length) ++
      [alphabet.getD (n % alphabet.length) '0']

/-- The value of a number to some power. -/
def powerOf (base count : Nat) : Nat :=
  (List.replicate count base).foldl (· * ·) 1

/-- The ending of the name of a piece that gets longer when the short ones are used up: those that
begin with the last digit have one more digit behind each such digit. -/
def growingEnding (alphabet : List Char) : Nat → Nat → Nat → List Char
  | 0, _, _ => []
  | fuel + 1, length, n =>
    let room := (alphabet.length - 1) * powerOf alphabet.length (length - 1)
    if n < room then digitsIn alphabet length n
    else alphabet.getLast?.toList ++ growingEnding alphabet fuel (length + 1) (n - room)

/-- How the pieces of a file are named. -/
structure PieceNames where
  start : String := "x"
  ending : String := ""
  alphabet : List Char := ['a', 'b', 'c', 'd', 'e', 'f', 'g', 'h', 'i', 'j', 'k', 'l', 'm', 'n',
    'o', 'p', 'q', 'r', 's', 't', 'u', 'v', 'w', 'x', 'y', 'z']
  length : Nat := 2
  grows : Bool := true
  first : Nat := 0

/-- The name of a piece, if there is one left. -/
def PieceNames.name? (p : PieceNames) (n : Nat) : Option String :=
  let text := fun (digits : List Char) => some (p.start ++ String.ofList digits ++ p.ending)
  if p.grows then text (growingEnding p.alphabet 10 p.length (p.first + n))
  else if p.first + n < powerOf p.alphabet.length p.length then
    text (digitsIn p.alphabet p.length (p.first + n))
  else none

/-- Lines with their ends, in pieces that hold at most some number of characters. A longer line is
cut itself. A last line without an end does not fill a piece up. -/
def packedLines (mark : Char) (most : Nat) : Nat → List Char → List (List Char) → List (List Char)
  | 0, _, _ => []
  | _ + 1, held, [] => if held.isEmpty then [] else [held]
  | fuel + 1, held, line :: rest =>
    let whole := held.length + line.length
    let isOpen := line.getLast? ≠ some mark
    if whole < most || whole = most && (held.isEmpty || !isOpen) then
      packedLines mark most fuel (held ++ line) rest
    else if !held.isEmpty then held :: packedLines mark most fuel [] (line :: rest)
    else line.take most :: packedLines mark most fuel [] (line.drop most :: rest)

/-- The lengths of some pieces of a whole, of which the first ones may be longer by one. -/
def evenLengths (whole count : Nat) : List Nat :=
  (List.range count).map fun n => whole / count + (if n < whole % count then 1 else 0)

/-- A text in pieces of some lengths. -/
def byLengths : List Nat → List Char → List (List Char)
  | [], _ => []
  | n :: rest, text => text.take n :: byLengths rest (text.drop n)

/-- Lines with their ends, each in the piece that its first character falls into. The pieces end at
some places. -/
def linesByPlace (ends : List Nat) (lines : List (List Char)) : List (List Char) :=
  let placed := (lines.foldl (fun (soFar : List (Nat × List Char) × Nat) line =>
    ((soFar.2, line) :: soFar.1, soFar.2 + line.length)) ([], 0)).1.reverse
  let starts := 0 :: ends
  (starts.zip ends).map fun (start, stop) =>
    (placed.filter fun (place, _) => start ≤ place && place < stop).flatMap (·.2)

/-- A way to cut a file into pieces. -/
inductive Cut where
  | lines (count : Nat)
  | bytes (count : Nat)
  | wholeLines (bytes : Nat)
  /-- Some number of pieces, of whole lines if `byLines`, or of every nth line if `inTurn`, and only
  one of them if it is `picked`. -/
  | parts (byLines inTurn : Bool) (picked : Option Nat) (count : Nat)

/-- A way to cut a file into a number of pieces, as a text gives it. -/
def Cut.ofParts (text : String) : Except String Cut := do
  let (byLines, inTurn, rest) := match text.toList with
    | 'l' :: '/' :: rest => (true, false, rest)
    | 'r' :: '/' :: rest => (false, true, rest)
    | rest => (false, false, rest)
  let number := fun (words : String) (digits : List Char) =>
    match size? (String.ofList digits) with
    | some (n + 1) => Except.ok (n + 1)
    | _ => .error (words ++ ": " ++ cited (String.ofList digits))
  match Text.cutAt '/' rest with
  | none => .ok (.parts byLines inTurn none (← number "invalid number of chunks" rest))
  | some (picked, count) =>
    let count ← number "invalid number of chunks" count
    let n ← number "invalid chunk number" picked
    if count < n then .error ("invalid chunk number: " ++ cited (String.ofList picked))
    else .ok (.parts byLines inTurn (some n) count)

/-- The pieces of a text whose lines end in a mark. -/
def Cut.pieces (cut : Cut) (mark : Char) (text : List Char) : List (List Char) :=
  let (whole, last) := Text.linesOf mark text
  let lines := whole.map (· ++ [mark]) ++ (if last.isEmpty then [] else [last])
  match cut with
  | .lines n => (chunks n (lines.length + 1) lines).map List.flatten
  | .bytes n => chunks n (text.length + 1) text
  | .wholeLines n => packedLines mark n (2 * text.length + 2) [] lines
  | .parts byLines inTurn _ n =>
    if inTurn then
      (List.range n).map fun k =>
        ((lines.zipIdx.filter fun (_, i) => i % n = k).map (·.1)).flatten
    else
      let lengths := evenLengths text.length n
      if byLines then
        let ends := (List.range n).map fun k => (lengths.take (k + 1)).foldl (· + ·) 0
        linesByPlace ends lines
      else byLengths lengths text

/-- The ways to cut that options ask for. -/
def cutsOf (f : Found) : Act (List Cut) := do
  let positive := fun (words text : String) => do
    match size? text with
    | some (n + 1) => pure (n + 1)
    | _ => fail ("invalid number of " ++ words ++ ": " ++ cited text)
  let cuts ← f.options.filterMapM fun (c, text) => do
    match c with
    | 'l' => pure (some (Cut.lines (← positive "lines" text)))
    | 'b' => pure (some (Cut.bytes (← positive "bytes" text)))
    | 'C' => pure (some (Cut.wholeLines (← positive "lines" text)))
    | 'n' =>
      match Cut.ofParts text with
      | .ok cut => pure (some cut)
      | .error words => fail words
    | _ => pure none
  match digitsOf (f.options.map (·.1)) with
  | none => pure cuts
  | some n =>
    if n = 0 then fail ("invalid number of lines: " ++ cited "0")
    pure (cuts ++ [Cut.lines n])

/-- Gives a piece to a command, which finds the name of the piece in a variable. -/
def filtered (r : Runner) (command name : String) (piece : List Char) : Act Unit := do
  let shell := ((← get).environment.lookup "SHELL").getD "/bin/sh"
  let prepare := modify fun s =>
    let named : Variable := { value := some (.text name), exported := true }
    { s.openStream 0 (.source piece false) with vars := putPair "FILE" named s.vars }
  match ← runChild r prepare shell ["-c", command] with
  | .exited 0 | .killed 13 => pure ()
  | .exited n =>
    deplore ("with FILE=" ++ name ++ ", exit " ++ toString n ++ " from command: " ++ command)
  | .killed n =>
    deplore ("with FILE=" ++ name ++ ", signal " ++ toString n ++ " from command: " ++ command)
  | .refused e => fail ("failed to run command: \"" ++ shell ++ " -c " ++ command ++ "\": " ++
      e.reason)

/-- Writes the pieces of a file to files of their own, or gives each to a command. -/
def split (r : Runner) (args : List String) : Act Unit := do
  let f ← options {
    letters := "a:b:C:del:n:t:ux0123456789"
    names := [("suffix-length", 'a', .value), ("additional-suffix", 'A', .value),
      ("bytes", 'b', .value), ("line-bytes", 'C', .value), ("numeric-suffixes", 'd', .perhaps),
      ("elide-empty-files", 'e', .nothing), ("hex-suffixes", 'x', .perhaps),
      ("lines", 'l', .value), ("number", 'n', .value), ("separator", 't', .value),
      ("unbuffered", 'u', .nothing), ("verbose", 'v', .nothing), ("filter", 'F', .value)] } args
  let length ← match f.value? 'a' with
    | none => pure 0
    | some text =>
      match text.toNat? with
      | some n => pure n
      | none => fail ("invalid suffix length: " ++ cited text)
  let cut ← match ← cutsOf f with
    | [] => pure (Cut.lines 1000)
    | [cut] => pure cut
    | _ => misuse "cannot split in more than one way"
  let mark ← match (f.value? 't').map String.toList with
    | none => pure '\n'
    | some [c] => pure c
    | some ['\\', '0'] => pure '\x00'
    | some [] => fail "empty record separator"
    | some text => fail ("multi-character separator " ++ cited (String.ofList text))
  match f.operands.drop 2 with
  | extra :: _ => misuse ("extra operand " ++ cited extra)
  | [] => pure ()
  let alphabet := match f.last? ['d', 'x'] with
    | some 'd' => "0123456789".toList
    | some _ => "0123456789abcdef".toList
    | none => ({} : PieceNames).alphabet
  let first := (f.last? ['d', 'x']).bind f.value? |>.getD ""
  let needed := match cut with
    | .parts _ _ none n =>
      (List.range 20).find? (fun k => n ≤ powerOf alphabet.length k) |>.getD 2
    | _ => 0
  if length ≠ 0 && length < needed then
    fail ("the suffix length needs to be at least " ++ toString needed)
  let names : PieceNames := {
    start := f.operands.getD 1 "x", ending := (f.value? 'A').getD "", alphabet
    length := if length ≠ 0 then length else max 2 needed
    grows := length = 0 && needed = 0 && first.isEmpty
    first := (first.toNat?).getD 0 }
  let operand := f.operands.headD "-"
  match ← content operand with
  | .error .isDirectory => fail (shown operand ++ ": " ++ FileError.isDirectory.reason)
  | .error .notOpen => fail (operand ++ ": " ++ FileError.notOpen.reason)
  | .error e => fail ("cannot open " ++ inQuotes operand ++ " for reading: " ++ e.reason)
  | .ok text =>
    let pieces := cut.pieces mark text
    match cut with
    | .parts _ _ (some n) _ =>
      if f.has 'F' then fail "--filter does not process a chunk extracted to stdout"
      write (pieces.getD (n - 1) [])
    | _ =>
      let pieces := if f.has 'e' then pieces.filter (!·.isEmpty) else pieces
      forAll pieces.zipIdx fun (piece, n) => do
        match names.name? n with
        | none => fail "output file suffixes exhausted"
        | some name =>
          if f.has 'v' then
            let words := if f.has 'F' then "executing with FILE=" else "creating file "
            writeLines [words ++ inQuotes name]
          match f.value? 'F' with
          | some command => filtered r command name piece
          | none =>
            match ← save name piece with
            | .ok () => pure ()
            | .error e => fail (shown name ++ ": " ++ e.reason)

end RemoteAttach.Tool
