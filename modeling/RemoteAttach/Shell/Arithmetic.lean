import RemoteAttach.Shell.Script
import RemoteAttach.Text.Numeral
import RemoteAttach.Text.Split

/-! Arithmetic expressions of the shell, on words of 64 bits: their form as data, how they are read
from a text, and the values of their operators. -/

namespace RemoteAttach.Shell

namespace Sum

/-- Why a text is no expression, or an expression has no value. -/
inductive Fault where
  | operand
  | choice
  | ending
  | closing
  | colon
  | target
  | operator
  | base
  | zeroDivisor
  | negativePower
  deriving DecidableEq

/-- A fault, and the text from its place on. -/
structure Refusal where
  fault : Fault
  near : List Char

end Sum

/-- An arithmetic expression. -/
inductive Sum where
  | number (value : Int)
  /-- A variable, or an item of a list by the text of its key. -/
  | variable (name : String) (key : Option String)
  | unary (op : Char) (operand : Sum)
  /-- Two operands, with the text from the second one on. -/
  | binary (op : String) (left right : Sum) (near : List Char)
  | choice (condition yes no : Sum)
  /-- An assignment of the value, or of what an operator makes of the old value and it, with the
  text near its end. -/
  | assign (op : String) (name : String) (key : Option String) (value : Sum) (near : List Char)
  /-- A variable that is raised or lowered by one, `after` its value is taken or before that. -/
  | step (name : String) (key : Option String) (amount : Int) (after : Bool)
  | both (first second : Sum)
  /-- The text could not be read on from here. What stands before is evaluated all the same. -/
  | flawed (refusal : Sum.Refusal)

namespace Sum

/-- A character of a number of the larger shell, which may name its base. -/
def isNumberChar (c : Char) : Bool :=
  c.isAlphanum || c = '_' || c = '@' || c = '#'

/-- The words for a refusal of an expression. The larger shell sees no further than a number that it
refuses. -/
def Refusal.message (r : Refusal) (dialect : Dialect) (text : String) : String :=
  match dialect with
  | .dash =>
    let words := match r.fault with
      | .operand | .choice => "expecting primary"
      | .closing => "expecting ')'"
      | .colon => "expecting ':'"
      | .zeroDivisor => "division by zero"
      | _ => "expecting EOF"
    "arithmetic expression: " ++ words ++ ": \"" ++ text ++ "\""
  | .bash =>
    let words := match r.fault with
      | .operand => "syntax error: operand expected"
      | .choice => "expression expected"
      | .ending => "syntax error in expression"
      | .closing => "missing `)'"
      | .colon => "`:' expected for conditional expression"
      | .target => "attempted assignment to non-variable"
      | .operator => "syntax error: invalid arithmetic operator"
      | .base => "value too great for base"
      | .zeroDivisor => "division by 0"
      | .negativePower => "exponent less than 0"
    let (whole, near) :=
      if r.fault = .base then
        let number := r.near.takeWhile isNumberChar
        (text.toList.take (text.length - (r.near.length - number.length)), number)
      else (text.toList, r.near)
    let whole := whole.dropWhile fun c => c = ' ' || c = '\t'
    String.ofList whole ++ ": " ++ words ++ " (error token is \"" ++ String.ofList near ++ "\")"

/-- A value in 64 bits. -/
def wrap (n : Int) : Int :=
  Int.bmod n UInt64.size

/-- The value of a truth value. -/
def ofBool (b : Bool) : Int :=
  if b then 1 else 0

/-- The value of an operator on its operands. -/
def apply (op : String) (a b : Int) : Except Fault Int :=
  match op with
  | "==" => .ok (ofBool (a = b))
  | "!=" => .ok (ofBool (a ≠ b))
  | "<=" => .ok (ofBool (a ≤ b))
  | ">=" => .ok (ofBool (b ≤ a))
  | "<" => .ok (ofBool (a < b))
  | ">" => .ok (ofBool (b < a))
  | "+" => .ok (wrap (a + b))
  | "-" => .ok (wrap (a - b))
  | "*" => .ok (wrap (a * b))
  | "/" => if b = 0 then .error .zeroDivisor else .ok (wrap (a.tdiv b))
  | "%" => if b = 0 then .error .zeroDivisor else .ok (a.tmod b)
  | "**" =>
    if b < 0 then .error .negativePower
    else .ok ((List.range b.toNat).foldl (fun n _ => wrap (n * a)) 1)
  | _ =>
    let a64 := Int64.ofInt a
    let b64 := Int64.ofInt b
    .ok (match op with
      | "|" => (a64 ||| b64).toInt
      | "^" => (a64 ^^^ b64).toInt
      | "&" => (a64 &&& b64).toInt
      | "<<" => (a64 <<< b64).toInt
      | _ => (a64 >>> b64).toInt)

/-- The value of an operator on its operand. -/
def applyOne (op : Char) (a : Int) : Int :=
  match op with
  | '-' => wrap (-a)
  | '!' => ofBool (a = 0)
  | '~' => -a - 1
  | _ => a

/-- The operators of two operands, longest first, and how tightly they bind. -/
def operators (dialect : Dialect) : List (String × Nat) :=
  (match dialect with
    | .dash => []
    | .bash => [("**", 11)]) ++
  [("||", 1), ("&&", 2), ("==", 6), ("!=", 6), ("<=", 7), (">=", 7), ("<<", 8), (">>", 8),
    ("|", 3), ("^", 4), ("&", 5), ("<", 7), (">", 7), ("+", 9), ("-", 9), ("*", 10), ("/", 10),
    ("%", 10)]

/-- What is left of an expression while it is read. -/
structure Unread where
  rest : List Char
  dialect : Dialect
  /-- What was left at the start of the last token. -/
  token : List Char := []

/-- Reads a part of an expression. -/
abbrev Reading (α : Type) := StateM Unread α

namespace Reading

/-- What is left after blanks. -/
def rest : Reading (List Char) := do
  let u ← get
  let text := u.rest.dropWhile fun c =>
    c = ' ' || c = '\t' || c = '\n' || (c = '\r' && u.dialect = .bash)
  set { u with rest := text }
  pure text

/-- Moves past a token of some characters. -/
def take (count : Nat) : Reading Unit :=
  modify fun u => { u with rest := u.rest.drop count, token := u.rest }

/-- Refuses the expression near a text, and reads no more. -/
def refuseNear (fault : Fault) (near : List Char) : Reading Sum := do
  modify fun u => { u with rest := [] }
  pure (.flawed ⟨fault, near⟩)

/-- The text from the next token on, or from the last one if there is no next one. -/
def here : Reading (List Char) := do
  let text ← rest
  let token := (← get).token
  pure (if text.isEmpty then token else text)

/-- Refuses the expression at the place that has been reached. -/
def refuse (fault : Fault) : Reading Sum := do
  refuseNear fault (← here)

/-- The value of a digit in a base of up to 64. -/
def digitIn? (base : Nat) (c : Char) : Option Nat :=
  let value :=
    if c.isDigit then some (c.toNat - '0'.toNat)
    else if c.isLower then some (c.toNat - 'a'.toNat + 10)
    else if c.isUpper then
      some (if base ≤ 36 then c.toNat - 'A'.toNat + 10 else c.toNat - 'A'.toNat + 36)
    else if c = '@' then some 62
    else if c = '_' then some 63
    else none
  value.filter (· < base)

/-- The value of some digits. -/
def valueIn (base : Nat) (digits : List Char) : Nat :=
  digits.foldl (fun n c => n * base + (digitIn? base c).getD 0) 0

/-- The number at the start of a text, by the rules of the system, and its length. It is octal after
a zero, hexadecimal after `0x` and binary after `0b`. -/
def plainNumber (text : List Char) : Int × Nat :=
  let digits := fun (base : Nat) (text : List Char) =>
    text.takeWhile fun c => (digitIn? base c).isSome
  let number := fun (base : Nat) (text : List Char) (before : Nat) =>
    ((valueIn base (digits base text) : Int), (digits base text).length + before)
  match text with
  | '0' :: x :: more =>
    if (x = 'x' || x = 'X') && !(digits 16 more).isEmpty then number 16 more 2
    else if (x = 'b' || x = 'B') && !(digits 2 more).isEmpty then number 2 more 2
    else number 8 text 0
  | _ => number (if text.head? = some '0' then 8 else 10) text 0

/-- Reads a number in the larger shell, where a base may be given before a hash. -/
def richNumber : Reading Sum := do
  let text ← rest
  let word := text.takeWhile isNumberChar
  let parsed : Option (Nat × List Char) := match word with
    | '0' :: x :: more =>
      if x = 'x' || x = 'X' then some (16, more)
      else match Text.cutAt '#' word with
        | some (base, digits) => (String.ofList base).toNat?.map fun base => (base, digits)
        | none => some (8, x :: more)
    | _ =>
      match Text.cutAt '#' word with
      | some (base, digits) => (String.ofList base).toNat?.map fun base => (base, digits)
      | none => some (10, word)
  match parsed with
  | none => refuseNear .base text
  | some (base, digits) =>
    if digits.any fun c => (digitIn? base c).isNone then refuseNear .base text
    else
      take word.length
      match ← rest with
      | '.' :: _ => refuse .operator
      | _ => pure (.number (wrap (Int.ofNat (valueIn base digits))))

/-- Reads a number. -/
def number : Reading Sum := do
  let u ← get
  match u.dialect with
  | .dash =>
    let (value, count) := plainNumber u.rest
    take count
    pure (.number (min value 9223372036854775807))
  | .bash => richNumber

/-- Reads the key of a list after its name, if there is one. -/
def key : Reading (Option String) := do
  let u ← get
  match u.dialect, u.rest with
  | .bash, '[' :: more =>
    match Text.cutAt ']' more with
    | some (key, after) =>
      set { u with rest := after }
      pure (some (String.ofList key))
    | none => pure none
  | _, _ => pure none

/-- A character that begins an operator of the larger shell. -/
def beginsOperator (c : Char) : Bool :=
  "=<>+-*/%!()&|^~?:,".toList.contains c

/-- The operator that an assignment at the start of a text applies first, and its length. -/
def assignment? (text : List Char) : Option (String × Nat) :=
  match text with
  | '=' :: '=' :: _ => none
  | '=' :: _ => some ("", 1)
  | _ =>
    let op := ["+", "-", "*", "/", "%", "&", "|", "^", "<<", ">>"].find? fun op =>
      (op.toList ++ ['=']).isPrefixOf text
    op.map fun op => (op, op.length + 1)

/-- The operator of two operands at the start of a text. -/
def operator? (dialect : Dialect) (text : List Char) : Option (String × Nat) :=
  if (assignment? text).isSome then none
  else (operators dialect).find? fun (op, _) => op.toList.isPrefixOf text

/-- Reads a name with its key, and its place in an assignment or a step. -/
def named (assignable : Bool) (value : Reading Sum) : Reading Sum := do
  let text ← rest
  let name := text.takeWhile isNameChar
  take name.length
  let key ← key
  let name := String.ofList name
  let after ← rest
  match (← get).dialect, after with
  | .bash, '+' :: '+' :: _ =>
    take 2
    pure (.step name key 1 true)
  | .bash, '-' :: '-' :: _ =>
    take 2
    pure (.step name key (-1) true)
  | _, _ =>
    match (if assignable then assignment? after else none) with
    | some (op, count) =>
      take count
      let right ← value
      pure (.assign op name key right (← here))
    | none => pure (.variable name key)

/-- Reads an operand; `inner` reads a whole expression and `value` one without commas. A name is
only assigned to where it is `assignable`. An assignment between parentheses is marked by a sign, so
that it is not taken for one without them, which no operator follows. -/
def operand (inner value : Reading Sum) : Nat → Bool → Reading Sum
  | 0, _ => refuse .operand
  | fuel + 1, assignable => do
    let text ← rest
    let dialect := (← get).dialect
    let stepped := fun (amount : Int) => do
      let after := (text.drop 2).dropWhile fun c => c = ' ' || c = '\t' || c = '\n'
      if dialect = .bash && after.head?.any isNameStart then
        take 2
        let _ ← rest
        let name := after.takeWhile isNameChar
        take name.length
        let key ← key
        pure (some (Sum.step (String.ofList name) key amount false))
      else pure none
    match text with
    | [] => refuse .operand
    | '(' :: _ =>
      take 1
      let sum ← inner
      match ← rest with
      | ')' :: _ =>
        take 1
        pure (match sum with
          | .assign .. => .unary '+' sum
          | _ => sum)
      | _ => pure (.both sum (← refuse .closing))
    | '+' :: more =>
      match (← if more.head? = some '+' then stepped 1 else pure none) with
      | some found => pure found
      | none =>
        take 1
        operand inner value fuel false
    | '-' :: more =>
      match (← if more.head? = some '-' then stepped (-1) else pure none) with
      | some found => pure found
      | none =>
        take 1
        pure (.unary '-' (← operand inner value fuel false))
    | c :: more =>
      if c = '~' || (c = '!' && more.head? ≠ some '=') then
        take 1
        pure (.unary c (← operand inner value fuel false))
      else if c.isDigit then number
      else if isNameStart c then named assignable value
      else refuse .operand

mutual

/-- Reads operands and the operators between them that bind as tightly as `level`. -/
def level (inner value : Reading Sum) : Nat → Nat → Bool → Reading Sum
  | 0, _, _ => refuse .operand
  | fuel + 1, binding, assignable => do
    let first ← operand inner value fuel assignable
    match first with
    | .assign .. => pure first
    | _ => more inner value fuel binding first

/-- Reads operators and their second operands. -/
def more (inner value : Reading Sum) : Nat → Nat → Sum → Reading Sum
  | 0, _, _ => refuse .operand
  | fuel + 1, binding, first => do
    match operator? (← get).dialect (← rest) with
    | some (op, tightness) =>
      if tightness < binding then pure first
      else
        take op.length
        let near ← rest
        let second ← level inner value fuel (if op = "**" then tightness else tightness + 1) false
        let near ← if op = "**" then here else pure near
        more inner value fuel binding (.binary op first second near)
    | none => pure first

end

/-- Reads an expression with a condition, or without one. -/
def conditional (inner value : Reading Sum) : Nat → Bool → Reading Sum
  | 0, _ => refuse .operand
  | fuel + 1, assignable => do
    let first ← level inner value fuel 1 assignable
    match first, ← rest with
    | .assign .., _ => pure first
    | _, '?' :: _ =>
      take 1
      let isRich := (← get).dialect = .bash
      let next ← rest
      let yes ←
        if isRich && (next.isEmpty || next.head? = some ':') then refuse .choice else inner
      match ← rest with
      | ':' :: _ =>
        take 1
        let no ←
          if isRich && (← rest).isEmpty then refuse .choice
          else conditional inner value fuel false
        pure (.choice first yes no)
      | _ => pure (.choice first yes (← refuse .colon))
    | _, text =>
      if (← get).dialect = .bash && (assignment? text).isSome then
        pure (.both first (← refuse .target))
      else pure first

/-- Reads expressions that are joined by commas, each through nested ones of some depth. -/
def whole (withCommas : Bool) : Nat → Reading Sum
  | 0 => refuse .operand
  | fuel + 1 => do
    let first ← conditional (whole true fuel) (whole false fuel) (fuel + 1) true
    match (← get).dialect, ← rest with
    | .bash, ',' :: _ =>
      if withCommas then
        take 1
        pure (.both first (← whole true fuel))
      else pure first
    | _, _ => pure first

end Reading

/-- The depth to which expressions are nested. -/
def maxDepth : Nat := 300

/-- The expression that a text writes. In the larger shell an empty text stands for zero. -/
def read (dialect : Dialect) (text : String) : Sum :=
  let isBlank := text.all fun c => c = ' ' || c = '\t' || c = '\n'
  if dialect = .bash && isBlank then .number 0
  else
    let reading : Reading Sum := do
      let sum ← Reading.whole true maxDepth
      match ← Reading.rest with
      | [] => pure sum
      | c :: _ =>
        let fault :=
          if dialect = .bash && !(c.isAlphanum || c = '_') && !Reading.beginsOperator c then
            Fault.operator
          else .ending
        pure (.both sum (← Reading.refuse fault))
    (reading ⟨text.toList, dialect, []⟩).1

/-- The first place where an expression could not be read on. -/
def flaw? : Sum → Option Refusal
  | .number _ | .variable .. | .step .. => none
  | .unary _ operand => operand.flaw?
  | .binary _ left right _ => left.flaw?.or right.flaw?
  | .choice condition yes no => (condition.flaw?.or yes.flaw?).or no.flaw?
  | .assign _ _ _ value _ => value.flaw?
  | .both first second => first.flaw?.or second.flaw?
  | .flawed refusal => some refusal

/-- The value of a text that is a number with blanks around it, of which `read` gives the value
without its sign, and the length. -/
def signed? (read : List Char → Int × Nat) (text : String) : Option Int :=
  let isBlank := fun c => c = ' ' || ('\t' ≤ c && c ≤ '\x0d')
  let body := text.toList.dropWhile isBlank
  let negative := body.head? = some '-'
  let digits := if negative || body.head? = some '+' then body.drop 1 else body
  let (value, count) := read digits
  let greatest := if negative then 9223372036854775808 else 9223372036854775807
  if count = 0 || !(digits.drop count).all isBlank || greatest < value then none
  else some (if negative then -value else value)

/-- The value of a text that is a decimal number. -/
def legal? : String → Option Int :=
  signed? fun text =>
    let digits := text.takeWhile Char.isDigit
    (Reading.valueIn 10 digits, digits.length)

/-- The value of a text that is a number for the system, or of blanks, which count as zero. -/
def plain? (text : String) : Option Int :=
  if text.toList.all fun c => c = ' ' || ('\t' ≤ c && c ≤ '\x0d') then some 0
  else signed? Reading.plainNumber text

end Sum

end RemoteAttach.Shell
