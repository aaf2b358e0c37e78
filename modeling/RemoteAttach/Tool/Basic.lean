import RemoteAttach.Shell.Format
import RemoteAttach.Shell.Redirect
import RemoteAttach.Text.Lines
import RemoteAttach.Tool.Options

/-! What the programs of the system have in common: how they read their operands, write, complain
and refuse. A program runs in a process of its own, whose name stands before its complaints. -/

namespace RemoteAttach.Tool

open Shell Act

/-- Complains under the name of the program. -/
def complain (text : String) : Act Unit := do
  warn ((← get).name ++ ": " ++ text ++ "\n")

/-- Complains, and gives the program a status to end with. -/
def deplore (text : String) (status : Nat := 1) : Act Unit := do
  complain text
  finish status

/-- Complains and ends. -/
def fail {α : Type} (text : String) (status : Nat := 1) : Act α := do
  complain text
  finish status
  throw .exit

/-- Ends after a hint at the way to call the program. -/
def hint {α : Type} (status : Nat := 1) : Act α := do
  warn ("Try '" ++ (← get).name ++ " --help' for more information.\n")
  finish status
  throw .exit

/-- Refuses a call. -/
def misuse {α : Type} (text : String) (status : Nat := 1) : Act α := do
  complain text
  hint status

/-- The options and operands of a program up to what is wrong with them. The environment can say
that the first operand ends the options. -/
def optionsSoFar (o : Options) (args : List String) : Act (Found × Option String) := do
  let isStrict := (← get).environment.any (·.1 = "POSIXLY_CORRECT")
  pure ({ o with stops := o.stops || isStrict }.scan false args)

/-- The options and operands of a program, whose options are looked at one after the other, before
what is wrong with those after them is complained of. -/
def optionsInTurn (o : Options) (args : List String) (look : Char → String → Act Unit)
    (status : Nat := 1) : Act Found := do
  let (found, fault) ← optionsSoFar o args
  forAll found.options fun (c, value) => look c value
  match fault with
  | none => pure found
  | some text => misuse text status

/-- The options and operands of a program. -/
def options (o : Options) (args : List String) (status : Nat := 1) : Act Found :=
  optionsInTurn o args (fun _ _ => pure ()) status

/-- A character that needs no quotes in the name of a file, whatever stands around it. -/
def isPlain (c : Char) : Bool :=
  c.isAlphanum || "_%+,-./:@]".toList.contains c

/-- The name of a file needs no quotes in a complaint. Some characters need them at its start, and
braces if they stand alone. -/
def isPlainName : List Char → Bool
  | [] => false
  | [c] => isPlain c && c ≠ ':'
  | c :: rest =>
    (isPlain c || c = '\x7b' || c = '\x7d') && c ≠ ':' &&
      rest.all fun c => (isPlain c && c ≠ ':') || "#~\x7b\x7d".toList.contains c

/-- A character that can be printed. -/
def isPrintable (c : Char) : Bool :=
  ' ' ≤ c && c ≤ '~'

/-- What stands for a character that cannot be printed, after a backslash. -/
def escape (c : Char) : List Char :=
  if c = '\x1b' then ['\\', '0', '3', '3'] else Format.dollarEscape c

/-- A text between single quotes, with those characters between dollar quotes that cannot be
printed. -/
def escapedFrom (inside : Bool) : List Char → List Char
  | [] => ['\'']
  | c :: rest =>
    if isPrintable c then
      let here := if c = '\'' then ['\'', '\\', '\'', '\''] else [c]
      (if inside then ['\'', '\''] else []) ++ here ++ escapedFrom false rest
    else
      (if inside then [] else ['\'', '$', '\'']) ++ escape c ++ escapedFrom true rest

/-- The name of a file in quotes. -/
def inQuotes (text : String) : String :=
  let chars := text.toList
  let first := match chars with
    | c :: _ => c = '#' || c = '~'
    | [] => false
  let others := if first then chars.drop 1 else chars
  if chars.contains '\'' && others.all fun c => isPlain c || c = ' ' || c = '\'' then
    "\"" ++ text ++ "\""
  else "'" ++ String.ofList (escapedFrom false chars)

/-- The name of a file, in quotes where it needs them. -/
def shown (text : String) : String :=
  if isPlainName text.toList then text else inQuotes text

/-- An operand in quotes. -/
def cited (text : String) : String :=
  "'" ++ String.ofList (text.toList.flatMap fun c =>
    if c = '\'' || c = '\\' then ['\\', c]
    else if isPrintable c then [c]
    else
      match c with
      | '\n' => ['\\', 'n']
      | '\t' => ['\\', 't']
      | '\r' => ['\\', 'r']
      | c =>
        let digits := Nat.toDigits 8 c.toNat
        '\\' :: List.replicate (3 - digits.length) '0' ++ digits) ++ "'"

/-- The place of the group that a word names, in full or by its first letters, among groups of words
that say the same. -/
def choose (title : String) (groups : List (List String)) (text : String) : Act Nat := do
  let exact := groups.findIdx? (·.contains text)
  let begun := groups.zipIdx.filter fun (words, _) => words.any (·.startsWith text)
  match exact, begun with
  | some n, _ => pure n
  | none, [(_, n)] => pure n
  | none, _ =>
    let quoted := groups.map fun words =>
      "  - " ++ String.intercalate ", " (words.map fun word => "'" ++ word ++ "'") ++ "\n"
    let problem := if begun.isEmpty then "invalid" else "ambiguous"
    complain (problem ++ " argument " ++ cited text ++ " for " ++ cited title)
    warn ("Valid arguments are:\n" ++ String.join quoted)
    hint

/-- What a program says of an output that is closed, and the status that it ends with. -/
def closedOutput (program : String) : List String × Nat :=
  match program with
  | "cat" | "yes" => (["standard output"], 1)
  | "diff" => (["standard output"], 2)
  | "tee" => (["'standard output'"], 1)
  | "find" => (["'standard output'", "write error"], 1)
  | "grep" | "egrep" | "fgrep" | "ls" | "dir" | "vdir" | "printenv" => (["write error"], 2)
  | "expr" | "tty" => (["write error"], 3)
  | "env" => (["write error"], 125)
  | "cmp" => ([], 1)
  | "rev" => ([], 0)
  | _ => (["write error"], 1)

/-- Complains of an output that is closed, and ends. -/
def refuseOutput {α : Type} : Act α := do
  let s ← get
  let program := (Text.pieces ['/'] s.name.toList).getLast?.elim s.name String.ofList
  if program = "sort" then
    complain "fflush failed: 'standard output': Bad file descriptor"
    fail "write error" 2
  else if program = "awk" || program = "mawk" then
    fail "close failed on file \"/dev/stdout\" (Bad file descriptor)" 2
  else
    let (words, status) := closedOutput program
    forAll words fun text => complain (text ++ ": Bad file descriptor")
    finish status
    throw .exit

/-- Writes to the output, which has to be open. -/
def write (text : List Char) : Act Unit := do
  if !text.isEmpty then
    let s ← get
    let (after, ending) := s.write 1 text
    match ending with
    | .done => set after
    | .full =>
      set after
      throw (.killed 13)
    | .closed => refuseOutput

/-- Writes a text to the output. -/
def writeText (text : String) : Act Unit :=
  write text.toList

/-- Writes lines to the output. -/
def writeLines (lines : List String) : Act Unit :=
  write (lines.flatMap fun line => line.toList ++ ['\n'])

/-- The content that an operand stands for, of which a hyphen stands for the input. -/
def content (operand : String) : Act (Except FileError (List Char)) := do
  if operand = "-" then
    match (← get).rest? 0 with
    | some _ =>
      match (← get).channel? 0 with
      | some (_, .folder) => pure (.error .isDirectory)
      | _ => pure (.ok (← readAll 0))
    | none => pure (.error .notOpen)
  else
    let s ← get
    match s.openToRead operand with
    | .error e => pure (.error e)
    | .ok (.inl index) =>
      match s.channels[index]? with
      | some .folder => pure (.error .isDirectory)
      | some channel =>
        let text := channel.rest s.files
        set { s with channels := s.channels.set! index (channel.advance text.length) }
        pure (.ok text)
      | none => pure (.error .notFound)
    | .ok (.inr .folder) => pure (.error .isDirectory)
    | .ok (.inr channel) => pure (.ok (channel.rest s.files))

/-- The input is closed. -/
def isInputClosed : Act Bool := do
  pure ((← get).channel? 0).isNone

/-- Closes the input, if one of some operands has stood for it. What is said of an input that has
been closed before names it by a title. -/
def closeInput (title : String) (operands : List String) : Act Unit := do
  if operands.contains "-" && (← isInputClosed) then
    deplore (title ++ ": Bad file descriptor")

/-- Complains of an input that is closed, and ends. -/
def needInput (words : String) (status : Nat := 1) : Act Unit := do
  if ← isInputClosed then fail (words ++ ": Bad file descriptor") status

/-- Writes a text to a file, which then holds nothing else unless the text is put behind what it
holds. -/
def save (name : String) (text : List Char) (mode : WriteMode := .forced) :
    Act (Except FileError Unit) := do
  let s ← get
  match s.openToWrite name mode with
  | .error e => pure (.error e)
  | .ok (files, target) =>
    let stream := 100 + s.channels.size
    set ({ s with files }.attach stream target)
    emit stream text
    modify fun after => { after with streams := s.streams }
    pure (.ok ())

/-- The operands, or a hyphen if there are none. -/
def orInput (operands : List String) : List String :=
  if operands.isEmpty then ["-"] else operands

/-- Complains about a file that cannot be used, with its name in quotes where it needs them. -/
def deploreFile (operand : String) (e : FileError) (status : Nat := 1) : Act Unit :=
  deplore (shown operand ++ ": " ++ e.reason) status

/-- The contents of some operands, one after the other. Those that cannot be read are complained
of. -/
def contents (operands : List String) (refused : String → FileError → Act Unit) :
    Act (List (String × List Char)) := do
  let all ← (orInput operands).mapM fun operand => do
    match ← content operand with
    | .ok text => pure (some (operand, text))
    | .error e =>
      refused operand e
      pure none
  pure (all.filterMap id)

/-- A whole number without a sign, and what follows it. -/
def leadingNumber (text : List Char) : Option (Nat × List Char) :=
  let digits := text.takeWhile Char.isDigit
  if digits.isEmpty then none
  else some ((Text.digitsAfter 10 0 digits).getD 0, text.drop digits.length)

/-- What a number is that a text means. -/
inductive Whole where
  | fine (n : Int)
  /-- It does not fit into a word, or is too far from what is allowed. -/
  | tooLarge
  /-- It is outside of what is allowed. -/
  | outside
  | malformed
  deriving DecidableEq, Repr

/-- The whole number that a text means, which has to be between two others, if they are given.
Blanks and a sign may stand before it. -/
def Whole.read (least most : Option Int) (text : String) : Whole :=
  let chars := text.toList.dropWhile fun c => c = ' ' || ('\t' ≤ c && c ≤ '\x0d')
  let (negative, digits) := match chars with
    | '-' :: digits => (true, digits)
    | '+' :: digits => (false, digits)
    | digits => (false, digits)
  if digits.isEmpty then .malformed
  else
    match Text.digitsAfter 10 0 digits with
    | none => .malformed
    | some n =>
      let value : Int := if negative then -n else n
      let fits := least.all (· ≤ value) && most.all (value ≤ ·)
      if n ≥ 9223372036854775808 || (!fits && 1073741823 < n) then .tooLarge
      else if fits then .fine value
      else .outside

/-- The whole number that a text means, or a complaint in some words. -/
def wholeNumber (words : String) (least most : Option Int) (text : String) (status : Nat := 1) :
    Act Int := do
  let problem := words ++ ": " ++ cited text
  match Whole.read least most text with
  | .fine n => pure n
  | .tooLarge => fail (problem ++ ": Value too large for defined data type") status
  | .outside => fail (problem ++ ": Numerical result out of range") status
  | .malformed => fail problem status

/-- The number that a text without a minus sign means, or a complaint in some words. -/
def countOf (words : String) (least : Nat) (text : String) (status : Nat := 1) : Act Nat := do
  if (text.toList.dropWhile (· = ' ')).head? = some '-' then
    fail (words ++ ": " ++ cited text) status
  else
    let n ← wholeNumber words (some least) none text status
    pure n.toNat

/-- The factor that a unit stands for. -/
def unit? (text : String) : Option Nat :=
  let power := fun (base count : Nat) => (List.replicate count base).foldl (· * ·) 1
  match text with
  | "" => some 1
  | "b" => some 512
  | "kB" => some 1000
  | _ =>
    let bare := [("K", 1), ("k", 1), ("M", 2), ("m", 2), ("G", 3), ("g", 3), ("T", 4), ("t", 4),
      ("P", 5), ("E", 6), ("Z", 7), ("Y", 8)]
    let thousands := [("KB", 1), ("MB", 2), ("mB", 2), ("GB", 3), ("gB", 3), ("TB", 4), ("tB", 4),
      ("PB", 5), ("EB", 6), ("ZB", 7), ("YB", 8)]
    let short := if text.endsWith "iB" then (text.dropEnd 2).toString else text
    match bare.lookup short, thousands.lookup text with
    | some n, _ => some (power 1024 n)
    | none, some n => some (power 1000 n)
    | none, none => none

/-- A number with a unit, which may stand alone. -/
def size? (text : String) : Option Nat := do
  let chars := text.toList.dropWhile (· = ' ')
  let chars := if chars.head? = some '+' then chars.drop 1 else chars
  let (n, rest) ← (leadingNumber chars).or
    (if text.isEmpty || chars.length ≠ text.length then none else some (1, chars))
  let factor ← unit? (String.ofList rest)
  some (n * factor)

/-- The size that a text means, or a complaint in some words. -/
def sizeOr (words text : String) (status : Nat := 1) : Act Nat := do
  match size? text with
  | some n =>
    if n < 18446744073709551616 then pure n
    else fail (words ++ ": " ++ cited text ++ ": Value too large for defined data type") status
  | none => fail (words ++ ": " ++ cited text) status

/-- A list in pieces of the same length. -/
def chunks {α : Type} (size : Nat) : Nat → List α → List (List α)
  | 0, _ => []
  | fuel + 1, all =>
    if all.isEmpty then [] else all.take size :: chunks size fuel (all.drop size)

/-- A text filled up with blanks on its left. -/
def padLeft (width : Nat) (text : String) : String :=
  String.ofList (List.replicate (width - text.length) ' ') ++ text

/-- A text filled up with blanks on its right. -/
def padRight (width : Nat) (text : String) : String :=
  text ++ String.ofList (List.replicate (width - text.length) ' ')

end RemoteAttach.Tool
