import RemoteAttach.Calendar
import RemoteAttach.Decimal.Places
import RemoteAttach.Tool.Basic
import RemoteAttach.Tool.Version

/-! Sorting lines: by whole lines or by parts of them, which are compared as texts, numbers, sizes,
months or versions. -/

namespace RemoteAttach.Tool.Sort

open Shell Act

/-- A part of each line, by which lines are sorted. -/
structure Key where
  /-- The fields and characters before it. -/
  field : Nat := 0
  char : Nat := 0
  /-- The field where it ends, and the characters of that field that belong to it; zero stands for
  all of them. -/
  last : Option (Nat × Nat) := none
  /-- Letters that say how it is compared. -/
  flags : List Char := []
  skipsAtStart : Bool := false
  skipsAtEnd : Bool := false

/-- What a part of a line is compared as. -/
inductive Value where
  | text (text : List Char)
  | number (units : Int) (places : Nat)
  | quantity (rank : Nat) (value : Decimal.Quantity)
  | size (order : Int) (units : Int) (places : Nat)
  | month (n : Nat)
  | version (text : List Char)

/-- The order of two texts. -/
def compareTexts : List Char → List Char → Ordering
  | [], [] => .eq
  | [], _ :: _ => .lt
  | _ :: _, [] => .gt
  | a :: as, b :: bs => if a = b then compareTexts as bs else if a < b then .lt else .gt

/-- The value of ten to a power. -/
def tenTo (n : Nat) : Int :=
  (List.replicate n (10 : Int)).foldl (· * ·) 1

/-- The order of two numbers with decimals. -/
def compareNumbers (a : Int) (m : Nat) (b : Int) (n : Nat) : Ordering :=
  compare (a * tenTo (n - m)) (b * tenTo (m - n))

/-- The order of two quantities. -/
def compareQuantities (a b : Decimal.Quantity) : Ordering :=
  match a, b with
  | .ratio s p q, .ratio t u v =>
    let left : Int := (p * v : Nat)
    let right : Int := (u * q : Nat)
    compare (if s then -left else left) (if t then -right else right)
  | .infinite s, .infinite t => if s = t then .eq else if s then .lt else .gt
  | .infinite s, _ => if s then .lt else .gt
  | _, .infinite t => if t then .gt else .lt
  | _, _ => .eq

/-- The order of two values. -/
def Value.order : Value → Value → Ordering
  | text a, text b => compareTexts a b
  | number a m, number b n => compareNumbers a m b n
  | quantity r a, quantity t b => (compare r t).then (compareQuantities a b)
  | size o a m, size p b n => (compare o p).then (compareNumbers a m b n)
  | month a, month b => compare a b
  | version a, version b => Version.compareNames a b
  | _, _ => .eq

/-- A blank. -/
def isBlank (c : Char) : Bool :=
  c = ' ' || c = '\t' || c = '\n'

/-- A text without the field at its start, and what divides that from the next one. -/
def dropField (tab : Option Char) (keepsTab : Bool) (text : List Char) : List Char :=
  match tab with
  | some tab =>
    let rest := text.dropWhile (· ≠ tab)
    if keepsTab then rest else rest.drop 1
  | none => (text.dropWhile isBlank).dropWhile fun c => !isBlank c

/-- A text without some fields. -/
def dropFields (tab : Option Char) : Nat → List Char → List Char
  | 0, text => text
  | n + 1, text => dropFields tab n (dropField tab false text)

/-- What is left of a text behind the end of a key. -/
def dropToEnd (tab : Option Char) (more : Bool) : Nat → List Char → List Char
  | 0, text => text
  | n + 1, text => dropToEnd tab more n (dropField tab (n = 0 && !more) text)

/-- The part of a line that a key means. -/
def Key.part (k : Key) (tab : Option Char) (line : List Char) : List Char :=
  let start := dropFields tab k.field line
  let start := if k.skipsAtStart then start.dropWhile isBlank else start
  let start := start.drop k.char
  match k.last with
  | none => start
  | some (field, char) =>
    let rest := if char = 0 then dropToEnd tab false field line
      else
        let rest := dropToEnd tab true (field - 1) line
        (if k.skipsAtEnd then rest.dropWhile isBlank else rest).drop char
    start.take (start.length - rest.length)

/-- The number at the start of a text, its decimals, and what follows. -/
def leadingDecimal (text : List Char) : Int × Nat × List Char :=
  let body := text.dropWhile isBlank
  let negative := body.head? = some '-'
  let body := if negative then body.drop 1 else body
  let whole := body.takeWhile Char.isDigit
  let rest := body.drop whole.length
  let fraction := match rest with
    | '.' :: rest => rest.takeWhile Char.isDigit
    | _ => []
  let rest := if rest.head? = some '.' then rest.drop (1 + fraction.length) else rest
  let value : Int := ((Text.digitsAfter 10 0 (whole ++ fraction)).getD 0 : Nat)
  (if negative then -value else value, fraction.length, rest)

/-- The month whose first letters a text begins with, counted from one; zero stands for none. -/
def monthOf (text : List Char) : Nat :=
  let short := fun (name : List Char) => (String.ofList (name.take 3)).toLower
  let start := short (text.dropWhile isBlank)
  match Calendar.months.findIdx? fun name => short name.toList = start with
  | some n => n + 1
  | none => 0

/-- A part of a line as it is compared. -/
def Key.value (k : Key) (part : List Char) : Value :=
  let has := k.flags.contains
  if has 'n' then
    let (value, places, _) := leadingDecimal part
    .number value places
  else if has 'g' then
    let (value, used) := Decimal.Quantity.read part
    match used, value with
    | 0, _ => .quantity 0 value
    | _, .undefined _ => .quantity 1 value
    | _, _ => .quantity 2 value
  else if has 'h' then
    let (value, places, rest) := leadingDecimal part
    let power : Int := match rest.head? with
      | some c => ((("KMGTPEZY".toList.findIdx? (· = (if c = 'k' then 'K' else c))).map
          fun n => (n + 1 : Int)).getD 0)
      | none => 0
    let power := if value = 0 then 0 else power
    .size (if value < 0 then -power else power) value places
  else if has 'M' then .month (monthOf part)
  else if has 'V' then .version part
  else
    let kept := if has 'd' then part.filter fun c => c.isAlphanum || isBlank c
      else if has 'i' then part.filter isPrintable else part
    .text (if has 'f' then kept.map Char.toUpper else kept)

/-- A line with what it is compared by. -/
structure Line where
  text : List Char
  values : List Value

/-- How lines are sorted. -/
structure Form where
  keys : List Key
  tab : Option Char
  /-- Lines whose keys are the same stay in their order. -/
  stable : Bool
  reverse : Bool
  unique : Bool

/-- A line with what it is compared by. -/
def Form.prepared (f : Form) (text : List Char) : Line :=
  ⟨text, f.keys.map fun k => k.value (k.part f.tab text)⟩

/-- The order of two lines by their keys. -/
def compareKeys : List Key → List Value → List Value → Ordering
  | k :: keys, a :: as, b :: bs =>
    match Value.order a b with
    | .eq => compareKeys keys as bs
    | order => if k.flags.contains 'r' then order.swap else order
  | _, _, _ => .eq

/-- The order of two lines. -/
def Form.order (f : Form) (a b : Line) : Ordering :=
  match compareKeys f.keys a.values b.values with
  | .eq =>
    if !f.keys.isEmpty && (f.stable || f.unique) then .eq
    else
      let order := compareTexts a.text b.text
      if f.reverse then order.swap else order
  | order => order

/-- The digits of a count at the start of a text, and what follows. -/
def count? (text : List Char) : Option (Nat × List Char) :=
  leadingNumber text

/-- The letters that say how a key is compared. -/
def orderLetters : List Char := "bdfghiMnRrV".toList

/-- The field and character at the start of a text, and what follows. -/
def place (spec : String) (where_ : String) (text : List Char) :
    Except String (Nat × Option Nat × List Char) :=
  match count? text with
  | none =>
    .error ("invalid number " ++ where_ ++ ": invalid count at start of " ++
      cited (String.ofList text))
  | some (0, _) => .error ("field number is zero: invalid field specification " ++ cited spec)
  | some (field, '.' :: rest) =>
    match count? rest with
    | none =>
      .error ("invalid number after '.': invalid count at start of " ++ cited (String.ofList rest))
    | some (char, rest) => .ok (field, some char, rest)
  | some (field, rest) => .ok (field, none, rest)

/-- The key that a text describes. -/
def key (spec : String) : Except String Key := do
  let (field, char, rest) ← place spec "at field start" spec.toList
  if char = some 0 then
    throw ("character offset is zero: invalid field specification " ++ cited spec)
  let letters := rest.takeWhile orderLetters.contains
  let rest := rest.drop letters.length
  let k : Key := {
    field := field - 1, char := char.getD 1 - 1, flags := letters.filter (· ≠ 'b')
    skipsAtStart := letters.contains 'b' }
  match rest with
  | [] => pure k
  | ',' :: rest =>
    let (field, char, rest) ← place spec "after ','" rest
    let letters := rest.takeWhile orderLetters.contains
    if !(rest.drop letters.length).isEmpty then
      throw ("stray character in field spec: invalid field specification " ++ cited spec)
    pure { k with
      last := some (field, char.getD 0), flags := k.flags ++ letters.filter (· ≠ 'b')
      skipsAtEnd := letters.contains 'b' }
  | _ => throw ("stray character in field spec: invalid field specification " ++ cited spec)

/-- Refuses letters that cannot stand together. -/
def checkFlags (flags : List Char) : Act Unit := do
  let kinds := (['n', 'g', 'h', 'M'].filter flags.contains).length +
    (if ['V', 'R', 'd', 'i'].any flags.contains then 1 else 0)
  if 1 < kinds then
    let shown := "dfghiMnRV".toList.filter flags.contains
    fail ("options '-" ++ String.ofList shown ++ "' are incompatible") 2

/-- The lines of two sorted lists as one. -/
def merge (f : Form) : Nat → List Line → List Line → List Line
  | 0, a, b => a ++ b
  | _, [], b => b
  | _, a, [] => a
  | fuel + 1, a :: as, b :: bs =>
    match f.order a b with
    | .gt => b :: merge f fuel (a :: as) bs
    | _ => a :: merge f fuel as (b :: bs)

/-- The lines without those that are the same as the one before them. -/
def dropSame (f : Form) (last : Option Line) : List Line → List Line
  | [] => []
  | line :: rest =>
    if last.any fun last => compareKeys f.keys last.values line.values = .eq &&
        (!f.keys.isEmpty || last.text = line.text) then
      dropSame f last rest
    else line :: dropSame f (some line) rest

/-- The number and text of the first line that is out of order. -/
def firstDisorder (f : Form) : Nat → List Line → Option (Nat × List Char)
  | n, a :: b :: rest =>
    match f.order a b with
    | .gt => some (n + 1, b.text)
    | .eq => if f.unique then some (n + 1, b.text) else firstDisorder f (n + 1) (b :: rest)
    | .lt => firstDisorder f (n + 1) (b :: rest)
  | _, _ => none

/-- A key in the old form, which counts fields from zero, in the new one. -/
def modernized (args : List String) : List String :=
  args.map fun arg =>
    match arg.toList with
    | '+' :: rest =>
      match count? rest with
      | some (n, rest) => "-k" ++ toString (n + 1) ++ String.ofList rest
      | none => arg
    | _ => arg

/-- Sorts the lines of files. -/
def run (args : List String) : Act Unit := do
  let f ← options {
    letters := "bcCdfghik:mMno:rRsS:t:T:uVz"
    names := [("ignore-leading-blanks", 'b', .nothing), ("check", 'c', .perhaps),
      ("dictionary-order", 'd', .nothing), ("ignore-case", 'f', .nothing),
      ("general-numeric-sort", 'g', .nothing), ("human-numeric-sort", 'h', .nothing),
      ("ignore-nonprinting", 'i', .nothing), ("key", 'k', .value), ("merge", 'm', .nothing),
      ("month-sort", 'M', .nothing), ("numeric-sort", 'n', .nothing), ("output", 'o', .value),
      ("reverse", 'r', .nothing), ("random-sort", 'R', .nothing), ("stable", 's', .nothing),
      ("buffer-size", 'S', .value), ("field-separator", 't', .value),
      ("temporary-directory", 'T', .value), ("unique", 'u', .nothing),
      ("version-sort", 'V', .nothing), ("zero-terminated", 'z', .nothing),
      ("parallel", 'p', .value), ("sort", '1', .value), ("debug", '2', .nothing)] }
    (modernized args) 2
  let named := match f.value? '1' with
    | some "numeric" => ['n']
    | some "general-numeric" => ['g']
    | some "human-numeric" => ['h']
    | some "month" => ['M']
    | some "version" => ['V']
    | some "random" => ['R']
    | _ => []
  let flags := orderLetters.filter (fun c => c ≠ 'b' && f.has c) ++ named
  let keys ← (f.values 'k').mapM fun spec => do
    match key spec with
    | .ok k => pure k
    | .error text => fail text 2
  let tab ← match f.value? 't' with
    | none => pure none
    | some text =>
      match text.toList with
      | [] => fail "empty tab" 2
      | [c] => pure (some c)
      | ['\\', '0'] => pure (some '\x00')
      | _ => fail ("multi-character tab " ++ cited text) 2
  let keys := keys.map fun k =>
    if k.flags.isEmpty && !k.skipsAtStart && !k.skipsAtEnd then
      { k with flags, skipsAtStart := f.has 'b', skipsAtEnd := f.has 'b' }
    else k
  let own := flags.filter (· ≠ 'r')
  let keys := if keys.isEmpty && (!own.isEmpty || f.has 'b') then
      [({ flags, skipsAtStart := f.has 'b' } : Key)]
    else keys
  checkFlags flags
  forAll keys fun k => checkFlags k.flags
  let form : Form := {
    keys, tab, stable := f.has 's', reverse := f.has 'r', unique := f.has 'u' }
  let checks := f.has 'c' || f.has 'C'
  if f.has '2' then complain "text ordering performed using simple byte comparison"
  if checks && 1 < f.operands.length then
    fail ("extra operand " ++ inQuotes (f.operands.getD 1 "") ++ " not allowed with -c") 2
  let mark := if f.has 'z' then '\x00' else '\n'
  let files ← contents f.operands fun text e => do
    let what := match e with
      | .isDirectory => "read failed: "
      | .notOpen => "stat failed: "
      | _ => "cannot read: "
    fail (what ++ shown text ++ ": " ++ e.reason) 2
  let lines := files.map fun (_, text) => (Text.allLines text mark).map form.prepared
  if checks then
    match firstDisorder form 1 lines.flatten with
    | none => pure ()
    | some (n, text) =>
      if !(f.has 'C' || f.value? 'c' = some "quiet" || f.value? 'c' = some "silent") then
        complain (shown (f.operands.headD "-") ++ ":" ++ toString n ++ ": disorder: " ++
          String.ofList text)
      finish 1
  else
    let sorted := if f.has 'm' then
        lines.foldl (fun all more => merge form (all.length + more.length) all more) []
      else lines.flatten.mergeSort fun a b => form.order a b ≠ .gt
    let kept := if form.unique then dropSame form none sorted else sorted
    let output := Text.ofLines (kept.map (·.text)) mark
    match f.value? 'o' with
    | none => write output
    | some file =>
      let s ← get
      match s.openToWrite file .forced with
      | .error e => fail ("open failed: " ++ shown file ++ ": " ++ e.reason) 2
      | .ok (files, target) =>
        let stream := 100 + s.channels.size
        set ({ s with files }.attach stream target)
        emit stream output

end RemoteAttach.Tool.Sort
