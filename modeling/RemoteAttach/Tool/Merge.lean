import RemoteAttach.Tool.Basic

/-! Programs that go through two files at once, whose lines have to rise: they tell what the files
have in common, or join the lines that share a field. A file whose lines do not rise is complained
of, at once or only after some line has found no partner. -/

namespace RemoteAttach.Tool

open Shell Act

namespace Merge

/-- When lines that do not rise are complained of. -/
inductive Watch where
  | never
  | afterUnpaired
  | always
  deriving DecidableEq

/-- A line with its fields. -/
structure Row where
  text : List Char
  fields : List (List Char)

/-- How far a file has been read: what is left of it, the number of the line that was read last, the
last lines themselves, and whether it has been complained of. -/
structure Side where
  name : String
  rest : List (List Char)
  number : Nat := 0
  last : Option Row := none
  beforeLast : Option Row := none
  isFaulty : Bool := false

/-- How far both files have been read, and whether a line has found no partner. -/
structure Progress where
  first : Side
  second : Side
  hasUnpaired : Bool := false

/-- Work on two files. -/
abbrev Merging (α : Type) := StateT Progress Act α

/-- What one file is to the other. -/
inductive Which where
  | first
  | second
  deriving BEq

/-- The file of the two. -/
def Progress.side (p : Progress) : Which → Side
  | .first => p.first
  | .second => p.second

/-- The progress with a file changed. -/
def Progress.update (p : Progress) (which : Which) (change : Side → Side) : Progress :=
  match which with
  | .first => { p with first := change p.first }
  | .second => { p with second := change p.second }

/-- How rows are read and compared. -/
structure Order where
  watch : Watch
  /-- The row of a line. -/
  row : List Char → Row
  /-- How two rows of a file compare. -/
  compare : Which → Row → Row → Ordering
  /-- The complaint about a file at a row. -/
  complaint : Which → Side → Row → String

/-- Complains of a file if a row of it comes before the one ahead of it. -/
def check (o : Order) (which : Which) (ahead row : Row) : Merging Unit := do
  let p ← get
  if o.watch = .always || (o.watch = .afterUnpaired && p.hasUnpaired) then
    let side := p.side which
    if !side.isFaulty && o.compare which ahead row = .gt then
      let text := o.complaint which side row
      if o.watch = .always then (fail text : Act Unit) else (complain text : Act Unit)
      set (p.update which fun side => { side with isFaulty := true })

/-- Reads a row of a file. -/
def take (o : Order) (which : Which) : Merging (Option Row) := do
  let side := (← get).side which
  match side.rest with
  | [] => pure none
  | line :: rest =>
    let row := o.row line
    modify (·.update which fun side => { side with rest, number := side.number + 1 })
    match side.last with
    | some ahead => check o which ahead row
    | none => pure ()
    modify (·.update which fun side => { side with last := some row, beforeLast := side.last })
    pure (some row)

/-- Ends the work: a file that has been complained of is a failure. -/
def settle (p : Progress) : Act Unit := do
  if p.first.isFaulty || p.second.isFaulty then fail "input is not in sorted order"

/-- The lines of a file. `title` names one that turns out to be a folder. -/
def linesOf (mark : Char) (title operand : String) : Act (List (List Char)) := do
  match ← content operand with
  | .ok text => pure (Text.allLines text mark)
  | .error .isDirectory => fail (title ++ ": " ++ FileError.isDirectory.reason)
  | .error .notOpen => fail (title ++ ": " ++ FileError.notOpen.reason)
  | .error e => fail (shown operand ++ ": " ++ e.reason)

/-- The order of two texts. -/
def compareTexts (a b : List Char) : Ordering :=
  compare (String.ofList a) (String.ofList b)

/-- What `comm` shows. -/
structure Columns where
  first : Bool
  second : Bool
  both : Bool
  between : List Char
  mark : Char

/-- The number of lines in the first file only, in the second only, and in both. -/
abbrev Counts := Nat × Nat × Nat

/-- Steps through a file that has been read up to a row. At its end the last two rows are looked at
again, for a line may have lost its partner since. -/
def step (o : Order) (which : Which) : Merging (Option Row) := do
  match ← take o which with
  | some row => pure (some row)
  | none =>
    let side := (← get).side which
    match side.beforeLast, side.last with
    | some ahead, some row => check o which ahead row
    | _, _ => pure ()
    pure none

/-- Shows the lines of two files, from two that have been read. -/
def compareFrom (o : Order) (c : Columns) :
    Nat → Counts → Option Row → Option Row → Merging Counts
  | 0, counts, _, _ => pure counts
  | fuel + 1, (only1, only2, both), a, b => do
    let show' := fun (wanted : Bool) (before : List Bool) (row : Row) => do
      if wanted then
        let tabs := (before.filter id).flatMap fun _ => c.between
        (write (tabs ++ row.text ++ [c.mark]) : Act Unit)
    let firstOnly := fun (row : Row) => do
      modify fun p => { p with hasUnpaired := true }
      show' c.first [] row
      compareFrom o c fuel (only1 + 1, only2, both) (← step o .first) b
    let secondOnly := fun (row : Row) => do
      modify fun p => { p with hasUnpaired := true }
      show' c.second [c.first] row
      compareFrom o c fuel (only1, only2 + 1, both) a (← step o .second)
    match a, b with
    | none, none => pure (only1, only2, both)
    | some row, none => firstOnly row
    | none, some row => secondOnly row
    | some row, some other =>
      match compareTexts row.text other.text with
      | .lt => firstOnly row
      | .gt => secondOnly other
      | .eq =>
        show' c.both [c.first, c.second] other
        let a ← step o .first
        let b ← step o .second
        compareFrom o c fuel (only1, only2, both + 1) a b

/-- When lines that do not rise are complained of, as the last option about that says. -/
def watchOf (f : Found) : Watch :=
  match f.last? ['4', '5'] with
  | some '4' => .always
  | some _ => .never
  | none => .afterUnpaired

/-- The two operands of a call. -/
def twoOperands (operands : List String) : Act (String × String) :=
  match operands with
  | [] => misuse "missing operand"
  | [only] => misuse ("missing operand after " ++ cited only)
  | [first, second] => pure (first, second)
  | _ :: _ :: extra :: _ => misuse ("extra operand " ++ cited extra)

end Merge

/-- Tells the lines that two files have in common, and those that only one of them has. -/
def comm (args : List String) : Act Unit := do
  let f ← options {
    letters := "123z"
    names := [("check-order", '4', .nothing), ("nocheck-order", '5', .nothing),
      ("output-delimiter", '6', .value), ("total", '7', .nothing),
      ("zero-terminated", 'z', .nothing)] } args
  let betweens := (f.values '6').eraseDups
  if 1 < betweens.length then fail "multiple output delimiters specified"
  let (first, second) ← Merge.twoOperands f.operands
  let mark := if f.has 'z' then '\x00' else '\n'
  let between := match betweens with
    | [] => ['\t']
    | text :: _ => if text.isEmpty then ['\x00'] else text.toList
  let order : Merge.Order := {
    watch := Merge.watchOf f
    row := fun line => ⟨line, []⟩
    compare := fun _ a b => Merge.compareTexts a.text b.text
    complaint := fun which _ _ =>
      "file " ++ (match which with
        | .first => "1"
        | .second => "2") ++ " is not in sorted order" }
  let lines1 ← Merge.linesOf mark (shown first) first
  let lines2 ← Merge.linesOf mark (shown second) second
  let all : Merge.Merging Merge.Counts := do
    let a ← Merge.take order .first
    let b ← Merge.take order .second
    Merge.compareFrom order ⟨!f.has '1', !f.has '2', !f.has '3', between, mark⟩
      (lines1.length + lines2.length + 1) (0, 0, 0) a b
  let ((only1, only2, both), progress) ← all.run
    ⟨⟨first, lines1, 0, none, none, false⟩, ⟨second, lines2, 0, none, none, false⟩, false⟩
  if f.has '7' then
    let counts := [only1, only2, both].map fun n => (toString n).toList
    write (List.intercalate between (counts ++ ["total".toList]) ++ [mark])
  Merge.settle progress

namespace Merge

/-- A field of the output of `join`. -/
inductive Wanted where
  /-- The field that lines are joined by. -/
  | key
  | field (which : Which) (index : Nat)

/-- Where operands of `join` stand: behind an option whose value they may go on with. -/
inductive Role where
  | operand
  | fields
  | key (which : Which)
  deriving BEq

/-- How lines are joined. -/
structure Plan where
  key1 : Option Nat := none
  key2 : Option Nat := none
  unpaired1 : Bool := false
  unpaired2 : Bool := false
  paired : Bool := true
  filler : Option String := none
  foldsCase : Bool := false
  separator : Option Char := none
  /-- The fields are counted in the first lines. -/
  counted : Bool := false
  fields : List Wanted := []
  mark : Char := '\n'
  watch : Watch := .afterUnpaired
  header : Bool := false
  /-- The operands, each with what it may be otherwise. -/
  operands : List (String × Role) := []
  /-- The keys that a letter and a digit ask for, if no operand turns out to be meant. -/
  loose1 : Nat := 0
  loose2 : Nat := 0

/-- The index of a field, which is counted from one. -/
def fieldIndex (text : String) : Except String Nat :=
  let digits := text.toList.dropWhile fun c => c = ' ' || c = '+'
  match Text.digitsAfter 10 0 digits with
  | some (n + 1) => if digits.isEmpty then refused else .ok n
  | _ => refused
where
  refused : Except String Nat := .error ("invalid field number: " ++ cited text)

/-- The plan with a field that the lines of a file are joined by. -/
def Plan.setKey (p : Plan) (which : Which) (index : Nat) : Except String Plan :=
  let old := match which with
    | .first => p.key1
    | .second => p.key2
  match old with
  | some n =>
    if n = index then .ok p
    else .error ("incompatible join fields " ++ toString n ++ ", " ++ toString index)
  | none =>
    .ok (match which with
      | .first => { p with key1 := some index }
      | .second => { p with key2 := some index })

/-- A field of the output as it is written. -/
def wanted (text : String) : Except String Wanted :=
  let faulty : Except String Wanted := .error ("invalid field specifier: " ++ cited text)
  match text.toList with
  | ['0'] => .ok .key
  | '0' :: _ => faulty
  | '1' :: '.' :: rest => (fieldIndex (String.ofList rest)).map (.field .first)
  | '2' :: '.' :: rest => (fieldIndex (String.ofList rest)).map (.field .second)
  | '1' :: _ | '2' :: _ => faulty
  | _ => .error ("invalid file number in field spec: " ++ cited text)

/-- The plan with fields of the output, between commas or blanks. -/
def Plan.addFields (p : Plan) (text : String) : Except String Plan := do
  let parts := Text.piecesBetween [',', ' ', '\t'].contains text.toList
  let more ← parts.mapM fun part => wanted (String.ofList part)
  .ok { p with fields := p.fields ++ more }

/-- Why a call of `join` is refused, and whether a hint follows. -/
abbrev Refusal := String × Bool

/-- A refusal without a hint. -/
def plainly {α : Type} : Except String α → Except Refusal α
  | .ok value => .ok value
  | .error text => .error (text, false)

/-- The plan with an operand. A third one shows that one before it was a value. -/
def Plan.addOperand (p : Plan) (name : String) (role : Role) : Except Refusal Plan :=
  match p.operands with
  | [(first, role1), (second, role2)] => do
    let (value, meant, kept) ←
      if role1 == .operand then pure (second, role2, (first, role1))
      else pure (first, role1, (second, role2))
    let p ← match meant with
      | .operand => throw ("extra operand " ++ cited name, true)
      | .fields => plainly (p.addFields value)
      | .key .first => do
        let p ← plainly (do p.setKey .first (← fieldIndex value))
        pure { p with loose1 := p.loose1 - 1 }
      | .key .second => do
        let p ← plainly (do p.setKey .second (← fieldIndex value))
        pure { p with loose2 := p.loose2 - 1 }
    .ok { p with operands := [kept, (name, role)] }
  | operands => .ok { p with operands := operands ++ [(name, role)] }

/-- The plan with an option, and what operands behind it may be. -/
def Plan.add (p : Plan) (c : Char) (value : String) (attached : Bool) :
    Except Refusal (Plan × Role) :=
  let done := fun (p : Plan) => (Except.ok (p, Role.operand) : Except Refusal (Plan × Role))
  match c with
  | 'v' | 'a' => do
    let p := if c = 'v' then { p with paired := false } else p
    match plainly (fieldIndex value) with
    | .ok 0 => done { p with unpaired1 := true }
    | .ok 1 => done { p with unpaired2 := true }
    | _ => throw ("invalid field number: " ++ cited value, false)
  | 'e' =>
    if p.filler.any (· ≠ value) then .error ("conflicting empty-field replacement strings", false)
    else done { p with filler := some value }
  | 'i' => done { p with foldsCase := true }
  | '1' => do done (← plainly (do p.setKey .first (← fieldIndex value)))
  | '2' => do done (← plainly (do p.setKey .second (← fieldIndex value)))
  | 'j' =>
    if attached && value = "1" then .ok ({ p with loose1 := p.loose1 + 1 }, .key .first)
    else if attached && value = "2" then .ok ({ p with loose2 := p.loose2 + 1 }, .key .second)
    else do
      let index ← plainly (fieldIndex value)
      done (← plainly (do (← p.setKey .first index).setKey .second index))
  | 'o' =>
    if value = "auto" then done { p with counted := true }
    else do .ok (← plainly (p.addFields value), .fields)
  | 't' => do
    let separator ← match value.toList with
      | [] => pure '\n'
      | [c] => pure c
      | ['\\', '0'] => pure '\x00'
      | _ => throw ("multi-character tab " ++ cited value, false)
    if p.separator.any (· ≠ separator) then throw ("incompatible tabs", false)
    done { p with separator := some separator }
  | 'z' => done { p with mark := '\x00' }
  | '4' => done { p with watch := .always }
  | '5' => done { p with watch := .never }
  | 'h' => done { p with header := true }
  | _ => done p

/-- The options of `join`. -/
def joinOptions : Options where
  letters := "a:e:i1:2:j:o:t:v:z"
  names := [("ignore-case", 'i', .nothing), ("check-order", '4', .nothing),
    ("nocheck-order", '5', .nothing), ("zero-terminated", 'z', .nothing),
    ("header", 'h', .nothing)]

/-- Reads the arguments of a call of `join`, where operands behind some options may be values. -/
def planFrom (p : Plan) (role : Role) (skipped : Bool) : List String → Except Refusal Plan
  | [] => .ok p
  | arg :: rest =>
    if skipped then planFrom p role false rest
    else
      match arg.toList with
      | ['-', '-'] => rest.foldlM (fun p name => p.addOperand name .operand) p
      | '-' :: '-' :: name =>
        match joinOptions.named rest.head? (String.ofList name) with
        | .error text => .error (text, true)
        | .ok ((c, value), used) => do
          let (p, role) ← p.add c value false
          planFrom p role used rest
      | '-' :: c :: more =>
        let (found, used, fault) := joinOptions.cluster rest.head? (c :: more)
        do
          let (p, role) ← found.foldlM (fun (p, _) (letter, value) =>
            p.add letter value (letter = c && !used)) (p, role)
          match fault with
          | some text => throw (text, true)
          | none => planFrom p role used rest
      | _ => do
        let p ← p.addOperand arg role
        planFrom p (if role == .fields then .fields else .operand) false rest

/-- The fields of a line. -/
def Plan.fieldsOf (p : Plan) (line : List Char) : List (List Char) :=
  if line.isEmpty then []
  else
    match p.separator with
    | some '\n' => [line]
    | some c => Text.pieces [c] line
    | none =>
      let isBlank := fun (c : Char) => c = ' ' || c = '\t' || c = '\n'
      let body := line.dropWhile isBlank
      let filled := (Text.piecesBetween isBlank body).filter (!·.isEmpty)
      if body.getLast?.any isBlank then filled ++ [[]] else filled

/-- The field that the lines of a file are joined by. -/
def Plan.key (p : Plan) : Which → Nat
  | .first => p.key1.getD 0
  | .second => p.key2.getD 0

/-- How the fields compare that rows are joined by. -/
def Plan.compareKeys (p : Plan) (in1 in2 : Which) (a b : Row) : Ordering :=
  let fold := fun (text : List Char) => if p.foldsCase then text.map Char.toUpper else text
  compareTexts (fold (a.fields.getD (p.key in1) [])) (fold (b.fields.getD (p.key in2) []))

/-- A line of the output, for rows of which one may be missing. `counts` holds the number of fields
that each of them is to have. -/
def Plan.joined (p : Plan) (counts : Nat × Nat) (a b : Option Row) : List Char :=
  let filler := ((p.filler.getD "").toList : List Char)
  let field := fun (row : Option Row) (index : Nat) =>
    match (row.bind fun row => row.fields[index]?) with
    | some (c :: text) => c :: text
    | _ => filler
  let key := match a with
    | some _ => field a (p.key .first)
    | none => field b (p.key .second)
  let others := fun (row : Option Row) (which : Which) (count : Nat) =>
    let count := if p.counted then count else (row.map (·.fields.length)).getD 0
    ((List.range count).filter (· ≠ p.key which)).map (field row)
  let all := if p.fields.isEmpty then
      key :: (others a .first counts.1 ++ others b .second counts.2)
    else p.fields.map fun wanted => match wanted with
      | .key => key
      | .field .first index => field a index
      | .field .second index => field b index
  List.intercalate [p.separator.getD ' '] all ++ [p.mark]

/-- Reads rows of a file as long as their fields are those of a row of the other one, and tells the
row after them. -/
def gather (o : Order) (isLike : Row → Bool) (which : Which) :
    Nat → Merging (List Row × Option Row)
  | 0 => pure ([], none)
  | fuel + 1 => do
    match ← take o which with
    | none => pure ([], none)
    | some row =>
      if isLike row then
        let (rows, next) ← gather o isLike which fuel
        pure (row :: rows, next)
      else pure ([], some row)

/-- Joins rows from two that have been read, as long as both files have some. -/
def pair (p : Plan) (o : Order) (counts : Nat × Nat) :
    Nat → Option Row → Option Row → Merging (Option Row × Option Row)
  | fuel + 1, some a, some b => do
    let unpair := modify fun (m : Progress) => { m with hasUnpaired := true }
    match p.compareKeys .first .second a b with
    | .lt =>
      if p.unpaired1 then (write (p.joined counts (some a) none) : Act Unit)
      let next ← take o .first
      unpair
      pair p o counts fuel next (some b)
    | .gt =>
      if p.unpaired2 then (write (p.joined counts none (some b)) : Act Unit)
      let next ← take o .second
      unpair
      pair p o counts fuel (some a) next
    | .eq =>
      let (more1, next1) ← gather o (fun row => p.compareKeys .first .second row b = .eq) .first
        (fuel + 1)
      let (more2, next2) ← gather o (fun row => p.compareKeys .first .second a row = .eq) .second
        (fuel + 1)
      if p.paired then
        (write ((a :: more1).flatMap fun x => (b :: more2).flatMap fun y =>
          p.joined counts (some x) (some y)) : Act Unit)
      pair p o counts fuel next1 next2
  | _, a, b => pure (a, b)

/-- Goes through what is left of a file. -/
def drain (p : Plan) (o : Order) (which : Which) (writes : Bool) (print : Row → List Char) :
    Nat → Merging Unit
  | 0 => pure ()
  | fuel + 1 => do
    match ← take o which with
    | none => pure ()
    | some row =>
      if writes then (write (print row) : Act Unit)
      if writes || !((← get).side which).isFaulty then drain p o which writes print fuel

/-- Joins all rows. -/
def Plan.run (p : Plan) (o : Order) (size : Nat) : Merging Unit := do
  let a ← take o .first
  let b ← take o .second
  let width := fun (row : Option Row) => (row.map (·.fields.length)).getD 0
  let counts := (width a, width b)
  let (a, b) ← if p.header && (a.isSome || b.isSome) then do
      (write (p.joined counts a b) : Act Unit)
      modify fun m => { m with
        first := { m.first with last := none }, second := { m.second with last := none } }
      let a ← if a.isSome then take o .first else pure none
      let b ← if b.isSome then take o .second else pure none
      pure (a, b)
    else pure (a, b)
  let (a, b) ← pair p o counts size a b
  let m ← get
  let watches := p.watch ≠ .never && !(m.first.isFaulty && m.second.isFaulty)
  match a with
  | some row =>
    if p.unpaired1 || watches then
      if p.unpaired1 then (write (p.joined counts (some row) none) : Act Unit)
      if b.isSome then modify fun m => { m with hasUnpaired := true }
      drain p o .first p.unpaired1 (fun row => p.joined counts (some row) none) size
  | none => pure ()
  match b with
  | some row =>
    if p.unpaired2 || watches then
      if p.unpaired2 then (write (p.joined counts none (some row)) : Act Unit)
      if a.isSome then modify fun m => { m with hasUnpaired := true }
      drain p o .second p.unpaired2 (fun row => p.joined counts none (some row)) size
  | none => pure ()

end Merge

/-- Joins the lines of two files that have a field in common. -/
def join (args : List String) : Act Unit := do
  match Merge.planFrom {} .operand false args with
  | .error (text, hints) => if hints then misuse text else fail text
  | .ok p =>
    match p.operands with
    | [(first, _), (second, _)] =>
      let p ← match (do
          let p ← if p.loose1 ≠ 0 then (← p.setKey .first 0).setKey .second 0 else .ok p
          if p.loose2 ≠ 0 then (← p.setKey .first 1).setKey .second 1 else .ok p) with
        | .ok p => pure p
        | .error text => fail text
      if first = "-" && second = "-" then fail "both files cannot be standard input"
      let lines1 ← Merge.linesOf p.mark "read error" first
      let lines2 ← Merge.linesOf p.mark "read error" second
      let order : Merge.Order := {
        watch := p.watch
        row := fun line => ⟨line, p.fieldsOf line⟩
        compare := fun which => p.compareKeys which which
        complaint := fun _ side row =>
          side.name ++ ":" ++ toString side.number ++ ": is not sorted: " ++
            String.ofList row.text }
      let start : Merge.Progress := { first := { name := first, rest := lines1 }
                                      second := { name := second, rest := lines2 } }
      let (_, progress) ← (p.run order (lines1.length + lines2.length + 1)).run start
      Merge.settle progress
    | [] => misuse "missing operand"
    | _ => misuse ("missing operand after " ++ cited (args.getLastD ""))

end RemoteAttach.Tool
