import RemoteAttach.Calendar
import RemoteAttach.Decimal.Places

/-! What `echo` and `printf` write. Both read escapes that begin with a backslash; `printf` also
reads directives that begin with a percent sign, and begins its format again while arguments are
left. The two shells and the program of the system differ in what they read and how they
complain. -/

namespace RemoteAttach.Shell

/-- Who formats. -/
inductive Formatter where
  | dash
  | bash
  | tool
  deriving DecidableEq, Repr

namespace Format

/-- Which escapes are read. -/
structure Escapes where
  /-- An octal number needs no zero before it. -/
  bare : Bool := true
  /-- A zero may stand before the three digits of an octal number. -/
  zero : Bool := true
  hex : Bool := true
  /-- The letter `c` ends the output. -/
  stops : Bool := true
  /-- Quotes and question marks may be protected. -/
  marks : Bool := false

/-- What an escape stands for, and the number of its characters after the backslash. -/
inductive Escape where
  | char (c : Char) (count : Nat)
  /-- Some characters of the text stand for themselves, with their backslash. -/
  | kept (text : List Char) (count : Nat)
  | stop
  deriving DecidableEq

/-- An octal digit. -/
def isOctal (c : Char) : Bool :=
  '0' ≤ c && c ≤ '7'

/-- The value of some digits. -/
def valueOf (base : Nat) (digits : List Char) : Nat :=
  (Text.digitsAfter base 0 digits).getD 0

/-- The escape after a backslash. -/
def escape (e : Escapes) (text : List Char) : Escape :=
  let single : Option Nat := text.head?.bind fun c =>
    [('\\', 92), ('a', 7), ('b', 8), ('t', 9), ('n', 10), ('v', 11), ('f', 12), ('r', 13),
      ('e', 27)].lookup c
  let mark := text.head?.filter fun c => e.marks && ['"', '\'', '?'].contains c
  match single.or (mark.map Char.toNat), text with
  | some code, _ => .char (Char.ofNat code) 1
  | none, 'c' :: _ => if e.stops then .stop else .kept ['\\'] 0
  | none, 'x' :: more =>
    let digits := (more.take 2).takeWhile fun c => (Text.digit? 16 c).isSome
    if e.hex && !digits.isEmpty then
      .char (Char.ofNat (valueOf 16 digits)) (digits.length + 1)
    else .kept ['\\'] 0
  | none, 'u' :: more =>
    let digits := (more.take 4).takeWhile fun c => (Text.digit? 16 c).isSome
    if e.hex && !digits.isEmpty then
      let code := valueOf 16 digits
      if code < 128 then .char (Char.ofNat code) (digits.length + 1)
      else
        let full := List.replicate (4 - digits.length) '0' ++ digits.map Char.toUpper
        .kept ('\\' :: 'u' :: full) (digits.length + 1)
    else .kept ['\\'] 0
  | none, _ =>
    let before := if e.zero && text.head? = some '0' then 1 else 0
    let digits := ((text.drop before).take 3).takeWhile isOctal
    if (digits.isEmpty && before = 0) || (before = 0 && !e.bare) then .kept ['\\'] 0
    else .char (Char.ofNat (valueOf 8 digits % 256)) (before + digits.length)

/-- The text with its escapes replaced, after its first `skip` characters, and whether an escape has
ended it. -/
def unescapedAfter (e : Escapes) : Nat → List Char → List Char × Bool
  | _, [] => ([], false)
  | skip + 1, _ :: rest => unescapedAfter e skip rest
  | 0, '\\' :: rest =>
    match escape e rest with
    | .stop => ([], true)
    | .char c count =>
      let (text, stopped) := unescapedAfter e count rest
      (c :: text, stopped)
    | .kept kept count =>
      let (text, stopped) := unescapedAfter e count rest
      (kept ++ text, stopped)
  | 0, c :: rest =>
    let (text, stopped) := unescapedAfter e 0 rest
    (c :: text, stopped)

/-- The text with its escapes replaced, and whether an escape has ended it. -/
def unescaped (e : Escapes) (text : List Char) : List Char × Bool :=
  unescapedAfter e 0 text

/-- An argument of `echo` that holds options only. -/
def isEchoOption (arg : String) : Bool :=
  match arg.toList with
  | '-' :: letters => !letters.isEmpty && letters.all fun c => c = 'n' || c = 'e' || c = 'E'
  | _ => false

/-- What `echo` writes: its arguments with blanks between them, and a line end unless it is told
to leave it out. The smaller shell always reads escapes, and the others if they are told to. -/
def echo (who : Formatter) (args : List String) : List Char :=
  let options := match who with
    | .dash => if args.head? = some "-n" then ["-n"] else []
    | _ => args.takeWhile isEchoOption
  let letters := options.flatMap String.toList
  let reads := match who with
    | .dash => true
    | _ => (letters.filter fun c => c = 'e' || c = 'E').getLast? = some 'e'
  let text := (String.intercalate " " (args.drop options.length)).toList
  let escapes : Escapes := match who with
    | .dash => { hex := false }
    | _ => { bare := false }
  let (text, stopped) := if reads then unescaped escapes text else (text, false)
  if stopped || letters.contains 'n' then text else text ++ ['\n']

/-- What a formatter writes to its output, or complains of. -/
inductive Event where
  | output (text : List Char)
  | complaint (text : String)

/-- What is left to be formatted, and what has been written, the last event first. -/
structure Printing where
  args : List String
  /-- The arguments of this round have been looked at. -/
  consumed : Bool := false
  events : List Event := []
  status : Nat := 0
  stopped : Bool := false

/-- A directive: its flags, width, precision and letter. -/
structure Directive where
  flags : List Char
  width : Nat
  precision : Option Nat
  letter : Char

/-- A text filled up with blanks or zeros to a width. Zeros stand after the sign. -/
def padded (d : Directive) (zeros : Bool) (sign body : List Char) : List Char :=
  let missing := d.width - (sign.length + body.length)
  if d.flags.contains '-' then sign ++ body ++ List.replicate missing ' '
  else if zeros && d.flags.contains '0' then sign ++ List.replicate missing '0' ++ body
  else List.replicate missing ' ' ++ sign ++ body

/-- The sign of a number. -/
def signOf (d : Directive) (negative : Bool) : List Char :=
  if negative then ['-']
  else if d.flags.contains '+' then ['+']
  else if d.flags.contains ' ' then [' ']
  else []

/-- A whole number as a directive writes it. -/
def integerText (d : Directive) (value : Int) : List Char :=
  let signed := d.letter = 'd' || d.letter = 'i'
  let size : Nat := if signed then value.natAbs
    else (if value < 0 then value + UInt64.size else value).toNat
  let base := match d.letter with
    | 'o' => 8
    | 'x' | 'X' => 16
    | _ => 10
  let digits := Nat.toDigits base size
  let digits := if d.letter = 'X' then digits.map Char.toUpper else digits
  let digits := if d.precision = some 0 && size = 0 then [] else digits
  let digits := List.replicate (d.precision.getD 0 - digits.length) '0' ++ digits
  let alternate := d.flags.contains '#'
  let digits := if alternate && base = 8 && digits.head? ≠ some '0' then '0' :: digits else digits
  let mark := if alternate && base = 16 && size ≠ 0 then ['0', d.letter] else []
  padded d d.precision.isNone ((if signed then signOf d (value < 0) else []) ++ mark) digits

/-- A number with a point as a directive writes it. -/
def quantityText (d : Directive) (q : Decimal.Quantity) : List Char :=
  let body := q.text d.letter d.precision (d.flags.contains '#')
  let finite := match q with
    | .ratio .. => true
    | _ => false
  padded d finite (signOf d q.isNegative) body

/-- A text as a directive writes it. -/
def stringText (d : Directive) (text : List Char) : List Char :=
  let text := match d.precision with
    | some most => text.take most
    | none => text
  padded d false [] text

/-- How reading a number has gone. -/
inductive Doubt where
  | missing
  | partly
  | outside
  deriving DecidableEq

/-- The complaint about a number, and the status that it gives. -/
def complaintOf (who : Formatter) (arg : String) : Doubt → String × Nat
  | .missing =>
    match who with
    | .dash => (arg ++ ": expected numeric value", 1)
    | .bash => (arg ++ ": invalid number", 1)
    | .tool => ("'" ++ arg ++ "': expected a numeric value", 1)
  | .partly =>
    match who with
    | .dash => (arg ++ ": not completely converted", 1)
    | .bash =>
      let kind := match arg.toList with
        | '0' :: 'x' :: _ | '0' :: 'X' :: _ => "hex "
        | '0' :: _ => "octal "
        | _ => ""
      (arg ++ ": invalid " ++ kind ++ "number", 1)
    | .tool => ("'" ++ arg ++ "': value not completely converted", 1)
  | .outside =>
    match who with
    | .dash => (arg ++ ": Numerical result out of range", 1)
    | .bash => ("warning: " ++ arg ++ ": Numerical result out of range", 0)
    | .tool => ("'" ++ arg ++ "': Numerical result out of range", 1)

/-- The value of a whole number of 64 bits, with a sign or without one, and a doubt if there is
any. -/
def integerOf (signed : Bool) (arg : String) : Int × Option Doubt :=
  match arg.toList with
  | [] => (0, none)
  | '\'' :: c :: _ | '"' :: c :: _ => (c.toNat, none)
  | '\'' :: [] | '"' :: [] => (0, none)
  | text =>
    let body := text.dropWhile fun c => c = ' ' || ('\t' ≤ c && c ≤ '\x0d')
    let negative := body.head? = some '-'
    let body := if negative || body.head? = some '+' then body.drop 1 else body
    let run := fun (base : Nat) (text : List Char) =>
      text.takeWhile fun c => (Text.digit? base c).isSome
    let (base, digits, before) : Nat × List Char × Nat := match body with
      | '0' :: x :: more =>
        if (x = 'x' || x = 'X') && !(run 16 more).isEmpty then (16, run 16 more, 2)
        else if (x = 'b' || x = 'B') && !(run 2 more).isEmpty then (2, run 2 more, 2)
        else (8, run 8 body, 0)
      | _ => (10, run 10 body, 0)
    let size := valueOf base digits
    let rest := body.drop (before + digits.length)
    let value : Int := if negative then -(size : Int) else size
    let top : Int := if signed then 0x7FFFFFFFFFFFFFFF else 0xFFFFFFFFFFFFFFFF
    let low : Int := if signed then -0x8000000000000000 else -0xFFFFFFFFFFFFFFFF
    if digits.isEmpty then (0, some .missing)
    else if top < value then (top, some .outside)
    else if value < low then (if signed then low else top, some .outside)
    else (value, if rest.isEmpty then none else some .partly)

namespace Printing

/-- Writes a text. -/
def output (p : Printing) (text : List Char) : Printing :=
  { p with events := .output text :: p.events }

/-- Complains, with a status. -/
def complain (p : Printing) (text : String) (status : Nat) : Printing :=
  { p with events := .complaint text :: p.events, status := max p.status status }

/-- Complains, and writes nothing more. -/
def refuse (p : Printing) (text : String) (status : Nat) : Printing :=
  { p.complain text status with stopped := true }

/-- The next argument, if one is left. -/
def next (p : Printing) : Option String × Printing :=
  match p.args with
  | [] => (none, { p with consumed := true })
  | arg :: args => (some arg, { p with args, consumed := true })

/-- The next argument as a whole number. -/
def nextInteger (p : Printing) (who : Formatter) (signed : Bool) : Int × Printing :=
  let (arg, p) := p.next
  let arg := arg.getD ""
  let (value, doubt) := integerOf signed arg
  match doubt with
  | none => (value, p)
  | some doubt =>
    let (text, status) := complaintOf who arg doubt
    (value, p.complain text status)

/-- The next argument as a number with a point. -/
def nextQuantity (p : Printing) (who : Formatter) : Decimal.Quantity × Printing :=
  let (arg, p) := p.next
  let arg := arg.getD ""
  match arg.toList with
  | '\'' :: c :: _ | '"' :: c :: _ => (.ratio false c.toNat 1, p)
  | text =>
    let (value, count) := Decimal.Quantity.read text
    let value := value.rounded (if who = .dash then 53 else 64)
    if text.isEmpty || count = text.length then (value, p)
    else
      let (text, status) := complaintOf who arg (if count = 0 then .missing else .partly)
      (value, p.complain text status)

end Printing

/-- The text between dollar quotes that stands for a character that cannot be printed. -/
def dollarEscape (c : Char) : List Char :=
  match c with
  | '\n' => ['\\', 'n']
  | '\t' => ['\\', 't']
  | '\r' => ['\\', 'r']
  | '\x07' => ['\\', 'a']
  | '\x08' => ['\\', 'b']
  | '\x0b' => ['\\', 'v']
  | '\x0c' => ['\\', 'f']
  | '\x1b' => ['\\', 'E']
  | '\'' => ['\\', '\'']
  | '\\' => ['\\', '\\']
  | c =>
    if ' ' ≤ c && c ≤ '~' then [c]
    else
      let digits := Nat.toDigits 8 c.toNat
      '\\' :: List.replicate (3 - digits.length) '0' ++ digits

/-- A text in a form that the larger shell reads as one word. -/
def quotedWord (text : String) : String :=
  let chars := text.toList
  let safe := fun (c : Char) => c.isAlphanum || "_%+-./:=@".toList.contains c
  if chars.isEmpty then "''"
  else if chars.any fun c => c < ' ' || '~' < c then
    "$'" ++ String.ofList (chars.flatMap dollarEscape) ++ "'"
  else
    String.ofList ((chars.zip (List.range chars.length)).flatMap fun (c, i) =>
      if safe c && !(i = 0 && c = '~') then [c]
      else if i ≠ 0 && (c = '#' || c = '~') then [c]
      else ['\\', c])

/-- A text between single quotes, as the system shows names. -/
def quotedName (text : String) : String :=
  let chars := text.toList
  let safe := fun (c : Char) => c.isAlphanum || "_%+,-./:=@^".toList.contains c
  if !chars.isEmpty && chars.all safe then text
  else if chars.contains '\'' && !chars.any fun c => c = '"' || c = '$' || c = '`' || c = '\\' then
    "\"" ++ text ++ "\""
  else "'" ++ String.ofList (chars.flatMap fun c =>
    if c = '\'' then ['\'', '\\', '\'', '\''] else [c]) ++ "'"

/-- Formats the next argument by a directive. `shown` is the text of the directive. -/
def convert (who : Formatter) (shown : List Char) (d : Directive) (p : Printing) : Printing :=
  let letter := d.letter
  let bad := match who with
    | .dash => p.refuse (String.ofList shown ++ ": invalid directive") 2
    | .bash => p.refuse ("`" ++ letter.toString ++ "': invalid format character") 1
    | .tool => p.refuse (String.ofList shown ++ ": invalid conversion specification") 1
  match letter with
  | 's' =>
    let (arg, p) := p.next
    p.output (stringText d (arg.getD "").toList)
  | 'c' =>
    let (arg, p) := p.next
    p.output (padded d false [] [((arg.getD "").toList.head?).getD '\x00'])
  | 'b' =>
    if who = .tool && (d.width ≠ 0 || d.precision.isSome) then bad
    else
      let (arg, p) := p.next
      let (text, stopped) := unescaped { hex := who ≠ .dash } (arg.getD "").toList
      { p.output (stringText d text) with stopped }
  | 'q' =>
    match who with
    | .dash => bad
    | .bash =>
      let (arg, p) := p.next
      p.output (stringText d (quotedWord (arg.getD "")).toList)
    | .tool =>
      let (arg, p) := p.next
      p.output (quotedName (arg.getD "")).toList
  | _ =>
    if ['d', 'i', 'o', 'u', 'x', 'X'].contains letter then
      let (value, p) := p.nextInteger who (letter = 'd' || letter = 'i')
      p.output (integerText d value)
    else if ['f', 'F', 'e', 'E', 'g', 'G'].contains letter then
      let (value, p) := p.nextQuantity who
      p.output (quantityText d value)
    else bad

/-- A number that a format holds, or takes from its arguments, at the start of a text; with the
number of its characters. -/
def measure (who : Formatter) (p : Printing) (text : List Char) : Option Int × Nat × Printing :=
  match text with
  | '*' :: _ =>
    let (value, p) := p.nextInteger who true
    (some value, 1, p)
  | _ =>
    let digits := text.takeWhile Char.isDigit
    (if digits.isEmpty then none else some (valueOf 10 digits : Nat), digits.length, p)

/-- Writes the moment that the next argument gives in seconds, in a form between parentheses that
the text of a directive holds from the second one on; tells how many characters that are. -/
def moment? (width : Nat) (left : Bool) (text : List Char) (p : Printing) :
    Option (Printing × Nat) := do
  match Text.cutAt ')' text with
  | some (form, 'T' :: _) =>
    let (arg, p) := p.next
    let (seconds, p) := match arg with
      | none => (0, p)
      | some text => ((integerOf true text).1, p)
    let shown := Calendar.format seconds (if form.isEmpty then "%X" else String.ofList form)
    let d : Directive := ⟨if left then ['-'] else [], width, none, 's'⟩
    some (p.output (stringText d shown.toList), form.length + 2)
  | _ => none

/-- Writes what the directive after a percent sign asks for, and tells its length. -/
def directive (who : Formatter) (text : List Char) (p : Printing) : Printing × Nat :=
  let known := if who = .dash then ['#', '-', '+', ' ', '0'] else ['#', '-', '+', ' ', '0', '\'']
  let flags := text.takeWhile known.contains
  let (width, widthLength, p) := measure who p (text.drop flags.length)
  let at1 := flags.length + widthLength
  let (precision, at2, p) := match text.drop at1 with
    | '.' :: more =>
      let (precision, count, p) := measure who p more
      (some (precision.getD 0), at1 + 1 + count, p)
    | _ => (none, at1, p)
  let modifiers := if who = .dash then []
    else (text.drop at2).takeWhile fun c => ['h', 'j', 'l', 'L', 't', 'z'].contains c
  let at3 := at2 + modifiers.length
  let flags := if width.any (· < 0) then '-' :: flags else flags
  let precision := (precision.filter (0 ≤ ·)).map Int.toNat
  let timed := match who, text.drop at2 with
    | .bash, '(' :: more => moment? (width.getD 0).natAbs (flags.contains '-') more p
    | _, _ => none
  match timed, text.drop at3 with
  | some (p, count), _ => (p, at2 + 1 + count)
  | none, [] =>
    let shown := '%' :: text
    (match who with
      | .dash => p.refuse "missing format character" 2
      | .bash => p.refuse ("`" ++ String.ofList shown ++ "': missing format character") 1
      | .tool => p.refuse (String.ofList shown ++ ": invalid conversion specification") 1, 0)
  | none, letter :: _ =>
    let d : Directive := ⟨flags, (width.getD 0).natAbs, precision, letter⟩
    (convert who ('%' :: text.take (at3 + 1)) d p, at3 + 1)

/-- Goes through a format, after its first `skip` characters. -/
def roundAfter (who : Formatter) : Nat → List Char → Printing → Printing
  | _, [], p => p
  | skip + 1, _ :: rest, p => roundAfter who skip rest p
  | 0, c :: rest, p =>
    if p.stopped then p
    else
      match c, rest with
      | '%', '%' :: _ => roundAfter who 1 rest (p.output ['%'])
      | '%', _ =>
        let (p, count) := directive who rest p
        roundAfter who count rest p
      | '\\', _ =>
        let escapes : Escapes :=
          { zero := false, hex := who ≠ .dash, stops := who = .tool, marks := who = .bash }
        match escape escapes rest with
        | .stop => { p with stopped := true }
        | .char c count => roundAfter who count rest (p.output [c])
        | .kept text count => roundAfter who count rest (p.output text)
      | c, _ => roundAfter who 0 rest (p.output [c])

/-- Goes through a format until no argument is left. -/
def roundsFrom (who : Formatter) (format : List Char) : Nat → Printing → Printing
  | 0, p => p
  | fuel + 1, p =>
    let before := p.args.length
    let p := roundAfter who 0 format { p with consumed := false }
    if p.stopped || p.args.isEmpty then p
    else if p.args.length = before then
      match who, p.args with
      | .tool, arg :: _ =>
        let words := "warning: ignoring excess arguments, starting with '" ++ arg ++ "'"
        p.complain words 0
      | _, _ => p
    else roundsFrom who format fuel p

/-- What `printf` writes and complains of, in order, and its status. -/
def print (who : Formatter) (format : String) (args : List String) : List Event × Nat :=
  let p := roundsFrom who format.toList (args.length + 1) { args }
  (p.events.reverse, p.status)

/-- The text of the output among some events. -/
def outputOf (events : List Event) : List Char :=
  events.flatMap fun event => match event with
    | .output text => text
    | .complaint _ => []

/-- The complaints among some events. -/
def complaintsOf (events : List Event) : List String :=
  events.filterMap fun event => match event with
    | .output _ => none
    | .complaint text => some text

end Format

end RemoteAttach.Shell
