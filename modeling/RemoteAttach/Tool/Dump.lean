import RemoteAttach.Tool.Words

/-! The program that writes the bytes of files as numbers and characters. -/

namespace RemoteAttach.Tool

open Shell Act

/-- A form in which bytes are shown: how many make up one number, how wide that is, and its text. -/
structure DumpForm where
  size : Nat
  width : Nat
  text : List Nat → String
  /-- The characters that can be printed are written behind each line. -/
  tells : Bool := false

/-- A number of bytes, of which the first one counts least. -/
def littleNumber (bytes : List Nat) : Nat :=
  bytes.reverse.foldl (fun n b => n * 256 + b) 0

/-- A number in a base with leading zeros. -/
def paddedDigits (base width n : Nat) : String :=
  let digits := String.ofList (Nat.toDigits base n)
  String.ofList (List.replicate (width - digits.length) '0') ++ digits

/-- The names of the characters below the blank. -/
def controlNames : List String :=
  ["nul", "soh", "stx", "etx", "eot", "enq", "ack", "bel", "bs", "ht", "nl", "vt", "ff", "cr",
    "so", "si", "dle", "dc1", "dc2", "dc3", "dc4", "nak", "syn", "etb", "can", "em", "sub", "esc",
    "fs", "gs", "rs", "us", "sp"]

/-- A byte as a character or an escape. -/
def charName (b : Nat) : String :=
  match [(0, "\\0"), (7, "\\a"), (8, "\\b"), (9, "\\t"), (10, "\\n"), (11, "\\v"), (12, "\\f"),
      (13, "\\r")].lookup b with
  | some name => name
  | none => if 32 ≤ b && b < 127 then (Char.ofNat b).toString else paddedDigits 8 3 b

/-- A byte as the name of a character. -/
def plainName (b : Nat) : String :=
  let low := b % 128
  if low = 127 then "del" else controlNames.getD low (Char.ofNat low).toString

/-- The forms of numbers by their letter and size. -/
def numberForm? (letter : Char) (size : Nat) : Option DumpForm :=
  let signed := fun (bytes : List Nat) =>
    let n := littleNumber bytes
    let top := Nat.pow 2 (8 * bytes.length)
    if 2 * n < top then toString n else toString ((n : Int) - top)
  let index := [1, 2, 4, 8].findIdx? (· = size)
  index.bind fun index =>
    match letter with
    | 'd' => some ⟨size, [4, 6, 11, 20].getD index 0, signed, false⟩
    | 'u' => some ⟨size, [3, 5, 10, 20].getD index 0, fun b => toString (littleNumber b), false⟩
    | 'o' =>
      let width := [3, 6, 11, 22].getD index 0
      some ⟨size, width, fun b => paddedDigits 8 width (littleNumber b), false⟩
    | 'x' =>
      some ⟨size, 2 * size, fun b => paddedDigits 16 (2 * size) (littleNumber b), false⟩
    | _ => none

/-- The forms that the text of a type asks for. -/
def dumpForms? : Nat → List Char → Option (List DumpForm)
  | 0, _ => none
  | _, [] => some []
  | fuel + 1, c :: rest =>
    let finish := fun (form : DumpForm) (rest : List Char) =>
      let tells := rest.head? = some 'z'
      (dumpForms? fuel (if tells then rest.drop 1 else rest)).map
        fun others => { form with tells } :: others
    match c with
    | 'a' => finish ⟨1, 3, fun b => plainName (littleNumber b), false⟩ rest
    | 'c' => finish ⟨1, 3, fun b => charName (littleNumber b), false⟩ rest
    | _ =>
      let digits := rest.takeWhile Char.isDigit
      let after := rest.drop digits.length
      let size : Option Nat := match digits, after with
        | [], 'C' :: _ => some 1
        | [], 'S' :: _ => some 2
        | [], 'I' :: _ => some 4
        | [], 'L' :: _ => some 8
        | [], _ => some 4
        | digits, _ => Text.digitsAfter 10 0 digits
      let used := digits.isEmpty && after.head?.any "CSIL".toList.contains
      match size.bind (numberForm? c) with
      | some form => finish form (if used then after.drop 1 else after)
      | none => none

/-- The options that stand for a type. -/
def dumpShorthands : List (Char × String) :=
  [('a', "a"), ('b', "o1"), ('c', "c"), ('d', "u2"), ('i', "dI"), ('l', "dL"), ('o', "o2"),
    ('s', "d2"), ('x', "x2")]

/-- One line of bytes in a form, each number with enough blanks before it. -/
def dumpLine (space perLine : Nat) (form : DumpForm) (bytes : List Nat) : String :=
  let groups := chunks form.size (bytes.length + 1) bytes
  let pad := space * form.size / 8
  let cells := groups.map fun group =>
    let filled := group ++ List.replicate (form.size - group.length) 0
    padLeft pad (form.text filled)
  let line := String.join cells
  if form.tells then
    let missing := (perLine - bytes.length) / form.size * pad
    let shown := bytes.map fun b => if 32 ≤ b && b < 127 then Char.ofNat b else '.'
    line ++ String.ofList (List.replicate missing ' ') ++ "  >" ++ String.ofList shown ++ "<"
  else line

/-- The text of an address. -/
def addressText (radix : Char) (n : Nat) : String :=
  match radix with
  | 'd' => paddedDigits 10 7 n
  | 'x' => paddedDigits 16 6 n
  | 'n' => ""
  | _ => paddedDigits 8 7 n

/-- The lines of a dump. Lines that repeat the one before are left out, with a mark for all. -/
def dumpLines (forms : List DumpForm) (radix : Char) (perLine : Nat) (all : Bool) :
    Nat → Option (List Nat) → Bool → List (List Nat) → List String
  | _, _, _, [] => []
  | address, last, marked, bytes :: rest =>
    let again := last = some bytes && bytes.length = perLine && !all
    if again then
      (if marked then [] else ["*"]) ++
        dumpLines forms radix perLine all (address + bytes.length) last true rest
    else
      let space := (forms.map fun form => (form.width + 1) * 8 / form.size).foldl max 0
      let title := addressText radix address
      let lines := forms.zipIdx.map fun (form, n) =>
        (if n = 0 then title else String.ofList (List.replicate title.length ' ')) ++
          dumpLine space perLine form bytes
      lines ++ dumpLines forms radix perLine all (address + bytes.length) (some bytes) false rest

/-- A number of bytes in decimal, octal or hexadecimal form. -/
def byteCount? (text : String) : Option Nat :=
  match text.toList with
  | '0' :: 'x' :: digits => if digits.isEmpty then none else Text.digitsAfter 16 0 digits
  | '0' :: c :: digits => if c.isDigit then Text.digitsAfter 8 0 (c :: digits) else size? text
  | _ => size? text

/-- Writes the bytes of files as numbers or characters. -/
def od (args : List String) : Act Unit := do
  let f ← options {
    letters := "A:abcdDeFfHhIij:lLN:oOsS:t:vw::xX"
    names := [("address-radix", 'A', .value), ("skip-bytes", 'j', .value),
      ("read-bytes", 'N', .value), ("format", 't', .value), ("output-duplicates", 'v', .nothing),
      ("width", 'w', .perhaps), ("strings", 'S', .perhaps)] } args
  let types := f.options.filterMap fun (c, value) =>
    if c = 't' then some value else dumpShorthands.lookup c
  let forms ← (if types.isEmpty then ["o2"] else types).mapM fun text => do
    match dumpForms? (text.length + 1) text.toList with
    | some forms => pure forms
    | none =>
      match text.toList with
      | [c] => fail ("invalid character '" ++ c.toString ++ "' in type string " ++ inQuotes text)
      | _ => fail ("invalid type string " ++ inQuotes text)
  let forms := forms.flatten
  let radix := ((f.value? 'A').bind fun text => text.toList.head?).getD 'o'
  if !"doxn".toList.contains radix then
    fail ("invalid output address radix '" ++ radix.toString ++
      "'; it must be one character from [doxn]")
  let number := fun (letter : Char) (name : String) => do
    match f.value? letter with
    | none => pure none
    | some text =>
      match byteCount? text with
      | some n => pure (some n)
      | none => fail ("invalid " ++ name ++ " argument " ++ cited text)
  let skip := (← number 'j' "-j").getD 0
  let most ← number 'N' "-N"
  let s ← get
  let files ← contents f.operands fun text e =>
    match e with
    | .notOpen => deplore ("'standard input': " ++ e.reason)
    | e => deploreFile text e
  let isClosed := (orInput f.operands).contains "-" && (← isInputClosed)
  if files.isEmpty && !isClosed && !f.operands.any (s.files.isFolder s.folder) then throw .exit
  let text := files.flatMap (·.2)
  if text.length < skip then fail "cannot skip past end of combined input"
  let body := text.drop skip
  let bytes := (match most with
    | some n => body.take n
    | none => body).map Char.toNat
  let perLine := match f.value? 'w' with
    | some text => if text.isEmpty then 32 else (text.toNat?).getD 16
    | none => 16
  let lines := dumpLines forms radix perLine (f.has 'v') skip none false
    (chunks perLine (bytes.length + 1) bytes)
  let ending := if radix = 'n' then [] else [addressText radix (skip + bytes.length)]
  writeLines (lines ++ ending)
  closeInput "standard input" (orInput f.operands)

end RemoteAttach.Tool
