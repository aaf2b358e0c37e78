import RemoteAttach.Files.Facts
import RemoteAttach.Shell.Arithmetic
import RemoteAttach.Shell.Format
import RemoteAttach.Shell.State
import RemoteAttach.Text.Blank

/-! Conditions, as `test` decides them: operators on texts, numbers and files, joined by `!`, `-a`
and `-o`, of which `-a` binds tighter. The smaller shell reads them from the left; the larger one
and the program of the system first look at their number. -/

namespace RemoteAttach.Shell

/-- The number of the stream that a path stands for. -/
def streamOfPath? (text : String) : Option Nat :=
  match text with
  | "/dev/stdin" => some 0
  | "/dev/stdout" => some 1
  | "/dev/stderr" => some 2
  | _ =>
    ["/dev/fd/", "/proc/self/fd/"].findSome? fun start =>
      if text.startsWith start then (String.ofList (text.toList.drop start.length)).toNat?
      else none

/-- The facts about the file where a text leads to, or the stream that it stands for. -/
def State.facts (s : State) (text : String) (followLast : Bool := true) :
    Except FileError FileFacts :=
  match streamOfPath? text with
  | some stream =>
    match s.channel? stream with
    | none => .error .notFound
    | some (_, .file path ..) => s.files.facts path ""
    | some (_, .folder) => .ok ⟨.folder, [], 4096, 0o755, 0⟩
    | some (_, .source rest true) => .ok ⟨.regular, [], rest.length, 0o644, 0⟩
    | some (_, .source ..) | some (_, .buffer ..) => .ok ⟨.pipe, [], 0, 0o600, 0⟩
    | some (_, .sink) | some (_, .zeros) => .ok ⟨.device, [], 0, 0o666, 0⟩
  | none => s.files.facts s.folder text followLast

namespace Condition

/-- A refused condition: the words for it. -/
abbrev Deciding (α : Type) := Except String α

/-- The operators on the texts of files and other single operands. -/
def unary : List String :=
  ["-r", "-w", "-x", "-e", "-f", "-d", "-c", "-b", "-p", "-u", "-g", "-k", "-s", "-t", "-z", "-n",
    "-h", "-O", "-G", "-L", "-S"]

/-- The operators on two operands. -/
def binary : List String :=
  ["=", "!=", "<", ">", "-eq", "-ne", "-ge", "-gt", "-le", "-lt", "-nt", "-ot", "-ef"]

/-- The operators that join conditions or stand around them. -/
def joints : List String := ["!", "-a", "-o", "(", ")"]

/-- Who decides: how it reads numbers, and which operators it has besides the common ones. -/
structure Judge where
  who : Formatter
  state : State

/-- The value of a decimal number with blanks around it. -/
def Judge.number (j : Judge) (text : String) : Deciding Int :=
  let isBlank := fun c => c = ' ' || ('\t' ≤ c && c ≤ '\x0d')
  let body := text.toList.dropWhile isBlank
  let negative := body.head? = some '-'
  let digits := if negative || body.head? = some '+' then body.drop 1 else body
  let digits := (digits.reverse.dropWhile isBlank).reverse
  let value : Int := ((Text.digitsAfter 10 0 digits).getD 0 : Nat)
  let value := if negative then -value else value
  let fits := j.who = .tool || (-0x8000000000000000 ≤ value && value ≤ 0x7FFFFFFFFFFFFFFF)
  if !digits.isEmpty && digits.all Char.isDigit && fits then .ok value
  else
    .error (match j.who with
      | .dash => "Illegal number: " ++ text
      | .bash => text ++ ": integer expression expected"
      | .tool => "invalid integer '" ++ text ++ "'")

/-- A parameter or an item of a list has a value. -/
def isSet (s : State) (text : String) : Bool :=
  match Text.cutAt '[' text.toList with
  | some (name, key) =>
    let key := String.ofList (key.takeWhile (· ≠ ']'))
    match s.value? (String.ofList name) with
    | some value => if key = "@" || key = "*" then !value.texts.isEmpty else value.keys.contains key
    | none => false
  | none =>
    match text.toNat? with
    | some n => n ≤ s.args.length
    | none =>
      match s.value? text with
      | some (.text _) => true
      | some value => value.keys.contains "0"
      | none => false

/-- Decides an operator on one operand. -/
def Judge.decideOne (j : Judge) (op operand : String) : Deciding Bool := do
  let facts := j.state.facts operand
  let ofKind := fun (kind : FileKind) => .ok (facts.toOption.any (·.kind = kind))
  match op with
  | "-n" => .ok (!operand.isEmpty)
  | "-z" => .ok operand.isEmpty
  | "-t" =>
    if j.who = .bash then .ok false
    else
      let _ ← j.number operand
      .ok false
  | "-f" => ofKind .regular
  | "-d" => ofKind .folder
  | "-c" => ofKind .device
  | "-p" => ofKind .pipe
  | "-b" | "-S" => .ok false
  | "-h" | "-L" => .ok ((j.state.facts operand false).toOption.any (·.kind = .link))
  | "-s" => .ok (facts.toOption.any (0 < ·.size))
  | "-x" => .ok (facts.toOption.any (·.isExecutable))
  | "-u" => .ok (facts.toOption.any (·.mode &&& 0o4000 != 0))
  | "-g" => .ok (facts.toOption.any (·.mode &&& 0o2000 != 0))
  | "-k" => .ok (facts.toOption.any fun f => f.mode &&& 0o1000 != 0 || f.path = ["tmp"])
  | "-v" => .ok (isSet j.state operand)
  | "-o" => .ok (j.state.on operand)
  | "-N" => .ok false
  | _ => .ok facts.toBool

/-- Decides an operator on two operands. -/
def Judge.decideTwo (j : Judge) (op left right : String) : Deciding Bool := do
  let numbers := fun (compare : Int → Int → Bool) => do
    let a ← j.number left
    let b ← j.number right
    .ok (compare a b)
  let ages := fun (compare : Option Int → Option Int → Bool) =>
    .ok (compare ((j.state.facts left).toOption.map (·.age))
      ((j.state.facts right).toOption.map (·.age)))
  match op with
  | "=" | "==" => .ok (left = right)
  | "!=" => .ok (left ≠ right)
  | "<" => .ok (left < right)
  | ">" => .ok (right < left)
  | "-eq" => numbers fun a b => a = b
  | "-ne" => numbers fun a b => a ≠ b
  | "-gt" => numbers fun a b => b < a
  | "-ge" => numbers fun a b => b ≤ a
  | "-lt" => numbers fun a b => a < b
  | "-le" => numbers fun a b => a ≤ b
  | "-nt" => ages fun a b => match a, b with
    | some a, some b => a < b
    | a, none => a.isSome && j.who ≠ .dash
    | none, _ => false
  | "-ot" => ages fun a b => match a, b with
    | some a, some b => b < a
    | none, b => b.isSome && j.who ≠ .dash
    | _, none => false
  | _ =>
    match j.state.facts left, j.state.facts right with
    | .ok a, .ok b =>
      let files := j.state.files
      .ok (files.firstName a.path = files.firstName b.path && a.kind = b.kind)
    | _, _ => .ok false

namespace Dash

/-- What a word means at its place. -/
inductive Meaning where
  | operand
  | one
  | two
  | joint
  | missing
  deriving DecidableEq

/-- What the first of some words means. -/
def meaning (words : List String) : Meaning :=
  match words with
  | [] => .missing
  | word :: rest =>
    if unary.contains word then
      match rest with
      | [] => .operand
      | next :: _ :: _ => if binary.contains next then .operand else .one
      | [_] => .one
    else if binary.contains word then .two
    else if joints.contains word && !(word = "(" && rest.isEmpty) then .joint
    else .operand

/-- The words of a complaint about an operator. -/
def about {α : Type} (word : Option String) (words : String) : Deciding α :=
  match word with
  | some word => if word.isEmpty then .error words else .error (word ++ ": " ++ words)
  | none => .error words

mutual

/-- Decides conditions of which one has to hold, and gives the words from the last one that has been
read. -/
def either (j : Judge) : Nat → Bool → List String → Deciding (Bool × List String)
  | 0, _, words => .ok (false, words)
  | fuel + 1, found, words => do
    let (value, words) ← both j fuel true words
    match words.drop 1 with
    | "-o" :: rest => either j fuel (found || value) rest
    | _ => .ok (found || value, words)

/-- Decides conditions that have to hold together. -/
def both (j : Judge) : Nat → Bool → List String → Deciding (Bool × List String)
  | 0, _, words => .ok (false, words)
  | fuel + 1, held, words => do
    let (value, words) ← negated j fuel words
    match words.drop 1 with
    | "-a" :: rest => both j fuel (held && value) rest
    | _ => .ok (held && value, words)

/-- Decides a condition that may be negated. -/
def negated (j : Judge) : Nat → List String → Deciding (Bool × List String)
  | 0, words => .ok (false, words)
  | fuel + 1, words => do
    match words with
    | "!" :: [] => .ok (true, ["!"])
    | "!" :: rest =>
      let (value, words) ← negated j fuel rest
      .ok (!value, words)
    | _ => primary j fuel (meaning words = .operand) words

/-- Decides a condition that is not joined. A word that is taken for an operand is no operator. -/
def primary (j : Judge) : Nat → Bool → List String → Deciding (Bool × List String)
  | 0, _, words => .ok (false, words)
  | fuel + 1, plain, words => do
    match words with
    | [] => .ok (false, [])
    | word :: rest =>
      if !plain && word = "(" then
        match rest with
        | ")" :: _ => .ok (false, rest)
        | _ =>
          let (value, words) ← either j fuel false rest
          match words.drop 1 with
          | ")" :: _ => .ok (value, words.drop 1)
          | _ => about none "closing paren expected"
      else if !plain && meaning words = .one then
        match rest with
        | [] => about (some word) "argument expected"
        | operand :: _ => .ok (← j.decideOne word operand, rest)
      else if meaning rest = .two then
        match rest with
        | op :: operand :: _ => .ok (← j.decideTwo op word operand, rest.drop 1)
        | _ => about rest.head? "argument expected"
      else .ok (!word.isEmpty, words)

end

/-- Decides some words, and whether the outcome is turned round. -/
def decide (j : Judge) : Nat → Bool → List String → Deciding Bool
  | 0, _, _ => .ok false
  | fuel + 1, turned, words => do
    let judged := fun (plain : Bool) => do
      let size := 2 * words.length + 8
      let (value, words) ←
        if plain then primary j size true words else either j size false words
      match words with
      | word :: _ :: _ => about (some word) "unexpected operator"
      | _ => .ok (value != turned)
    let outer := fun (_ : Unit) =>
      match words with
      | "(" :: rest =>
        if rest.getLast? = some ")" then decide j fuel turned rest.dropLast else judged false
      | "!" :: rest => decide j fuel (!turned) rest
      | _ => judged false
    match words with
    | [] => .ok false
    | [_, op, _] => if binary.contains op then judged true else outer ()
    | [_, _, _, _] => outer ()
    | _ => judged false

end Dash

namespace Counted

/-- The operator looks at one operand. -/
def isUnary (j : Judge) (op : String) : Bool :=
  unary.contains op || op = "-N" ||
    (j.who = .bash && (op = "-v" || op = "-o" || op = "-a" || op = "-R"))

/-- The operator compares two operands. -/
def isBinary (j : Judge) (op : String) : Bool :=
  op = "==" || (binary.contains op && (j.who = .bash || (op ≠ "<" && op ≠ ">")))

/-- The words of a complaint about a word. -/
def about {α : Type} (j : Judge) (word words : String) : Deciding α :=
  .error ((if j.who = .bash then word else "'" ++ word ++ "'") ++ ": " ++ words)

/-- Refuses words that end too early. -/
def beyond {α : Type} (j : Judge) (last : String) : Deciding α :=
  .error (if j.who = .bash then "argument expected" else "missing argument after '" ++ last ++ "'")

/-- Decides two words. -/
def two (j : Judge) (a b : String) : Deciding Bool :=
  if a = "!" then .ok b.isEmpty
  else if a.length = 2 && a.startsWith "-" then
    if isUnary j a then j.decideOne a b else about j a "unary operator expected"
  else if j.who = .bash then about j a "unary operator expected"
  else beyond j b

/-- Decides three words. -/
def three (j : Judge) (a b c : String) : Deciding Bool :=
  if isBinary j b then j.decideTwo b a c
  else if b = "-a" then .ok (!a.isEmpty && !c.isEmpty)
  else if b = "-o" then .ok (!a.isEmpty || !c.isEmpty)
  else if a = "!" then (!·) <$> two j b c
  else if a = "(" && c = ")" then .ok (!b.isEmpty)
  else about j b "binary operator expected"

mutual

/-- Decides conditions of which one has to hold, and gives the words that are left. -/
def either (j : Judge) (last : String) : Nat → List String → Deciding (Bool × List String)
  | 0, words => .ok (false, words)
  | fuel + 1, words => do
    let (value, rest) ← both j last fuel words
    match rest with
    | "-o" :: rest =>
      let (more, rest) ← either j last fuel rest
      .ok (value || more, rest)
    | _ => .ok (value, rest)

/-- Decides conditions that have to hold together. -/
def both (j : Judge) (last : String) : Nat → List String → Deciding (Bool × List String)
  | 0, words => .ok (false, words)
  | fuel + 1, words => do
    let (value, rest) ← term j last fuel words
    match rest with
    | "-a" :: rest =>
      let (more, rest) ← both j last fuel rest
      .ok (value && more, rest)
    | _ => .ok (value, rest)

/-- Decides a condition that is not joined. -/
def term (j : Judge) (last : String) : Nat → List String → Deciding (Bool × List String)
  | 0, words => .ok (false, words)
  | fuel + 1, words => do
    match words with
    | [] => beyond j last
    | "!" :: rest =>
      let (value, rest) ← term j last fuel rest
      .ok (!value, rest)
    | "(" :: rest =>
      let (value, rest) ← either j last fuel rest
      match rest with
      | ")" :: rest => .ok (value, rest)
      | [] => .error "`)' expected"
      | found :: _ => .error ("`)' expected, found " ++ found)
    | a :: op :: b :: rest =>
      if isBinary j op then .ok (← j.decideTwo op a b, rest)
      else if isUnary j a then .ok (← j.decideOne a op, b :: rest)
      else .ok (!a.isEmpty, op :: b :: rest)
    | [a, b] =>
      if isUnary j a then .ok (← j.decideOne a b, []) else .ok (!a.isEmpty, [b])
    | [a] => .ok (!a.isEmpty, [])

end

/-- Decides some words, by rules that depend on their number. -/
def decide (j : Judge) (words : List String) : Deciding Bool := do
  let long := fun (words : List String) => do
    let (value, rest) ← either j (words.getLastD "") (2 * words.length + 8) words
    match rest with
    | [] => .ok value
    | word :: _ =>
      if j.who = .bash then
        if word.startsWith "-" then .error ("syntax error: `" ++ word ++ "' unexpected")
        else .error "too many arguments"
      else .error ("extra argument '" ++ word ++ "'")
  match words with
  | [] => .ok false
  | [a] => .ok (!a.isEmpty)
  | [a, b] => two j a b
  | [a, b, c] => three j a b c
  | ["!", a, b, c] => (!·) <$> three j a b c
  | ["(", a, b, ")"] => two j a b
  | words => long words

end Counted

/-- Decides the words of `test`, or of the bracket of that name. -/
def decide (j : Judge) (name : String) (words : List String) : Deciding Bool :=
  let closed := name.endsWith "["
  let closes := fun (word : String) => match j.who with
    | .dash => word.startsWith "]"
    | _ => word = "]"
  if closed && !words.getLast?.any closes then
    .error (match j.who with
      | .dash => "missing ]"
      | .bash => "missing `]'"
      | .tool => "missing ']'")
  else
    let words := if closed then words.dropLast else words
    match j.who with
    | .dash => Dash.decide j (words.length + 2) false words
    | _ => Counted.decide j words

end Condition

end RemoteAttach.Shell
