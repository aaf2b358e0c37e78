import RemoteAttach.Decimal.Places
import RemoteAttach.Text.Regex.Reader
import RemoteAttach.Tool.Basic

/-! Programs that count and calculate: rows of numbers, and expressions whose operators are
arguments of their own. -/

namespace RemoteAttach.Tool

open Shell Act

/-- A number of a row: its value as a whole number of units, and the number of its decimals. -/
structure RowNumber where
  value : Int
  places : Nat

/-- The value of ten to a power. -/
def tenTo (n : Nat) : Int :=
  (List.replicate n (10 : Int)).foldl (· * ·) 1

/-- A number of a row in plain or scientific form, or in the form of sixteen digits. -/
def rowNumber? (text : String) : Option RowNumber := do
  let chars := text.toList.dropWhile fun c => c = ' ' || c = '\t'
  let negative := chars.head? = some '-'
  let body := if negative || chars.head? = some '+' then chars.drop 1 else chars
  let sign := fun (n : Nat) => if negative then -(n : Int) else (n : Int)
  match body with
  | '0' :: x :: digits =>
    if x = 'x' || x = 'X' then
      let value ← Text.digitsAfter 16 0 digits
      if digits.isEmpty then none else some ⟨sign value, 0⟩
    else decimal sign body
  | _ => decimal sign body
where
  /-- A number in decimal form. -/
  decimal (sign : Nat → Int) (body : List Char) : Option RowNumber := do
    let whole := body.takeWhile Char.isDigit
    let rest := body.drop whole.length
    let (fraction, rest) := match rest with
      | '.' :: rest =>
        let digits := rest.takeWhile Char.isDigit
        (digits, rest.drop digits.length)
      | rest => ([], rest)
    if whole.isEmpty && fraction.isEmpty then none
    else
      let value := (Text.digitsAfter 10 0 (whole ++ fraction)).getD 0
      match rest with
      | [] => some ⟨sign value, fraction.length⟩
      | e :: exponent =>
        if e ≠ 'e' && e ≠ 'E' then none
        else
          let negative := exponent.head? = some '-'
          let digits := if negative || exponent.head? = some '+' then exponent.drop 1 else exponent
          if digits.isEmpty || !digits.all Char.isDigit then none
          else
            let n := (Text.digitsAfter 10 0 digits).getD 0
            if negative then some ⟨sign value, fraction.length + n⟩
            else if n ≤ fraction.length then some ⟨sign value, fraction.length - n⟩
            else some ⟨sign value * tenTo (n - fraction.length), 0⟩

/-- The value of a number in units of a number of decimals. -/
def RowNumber.scaled (n : RowNumber) (places : Nat) : Int :=
  n.value * tenTo (places - n.places)

/-- A number of units as a text with some decimals, filled up with zeros to a width. -/
def rowText (places width : Nat) (value : Int) : String :=
  let digits := (toString value.natAbs).toList
  let digits := List.replicate (places + 1 - digits.length) '0' ++ digits
  let whole := digits.take (digits.length - places)
  let body := if places = 0 then whole else whole ++ '.' :: digits.drop whole.length
  let sign := if value < 0 then ['-'] else []
  String.ofList (sign ++ List.replicate (width - sign.length - body.length) '0' ++ body)

/-- What is wrong with a format, which is to have exactly one directive for a number. -/
def formatFault? (text : String) : List Char → Option String
  | '%' :: '%' :: rest => formatFault? text rest
  | '%' :: rest =>
    let rest := rest.dropWhile "-+#0 '".toList.contains
    let rest := rest.dropWhile Char.isDigit
    let rest := match rest with
      | '.' :: rest => rest.dropWhile Char.isDigit
      | rest => rest
    match if rest.head? = some 'L' then rest.drop 1 else rest with
    | [] => some ("format " ++ cited text ++ " ends in %")
    | c :: rest =>
      if !"efgaEFGA".toList.contains c then
        some ("format " ++ cited text ++ " has unknown %" ++ c.toString ++ " directive")
      else if hasDirective rest then
        some ("format " ++ cited text ++ " has too many % directives")
      else none
  | _ :: rest => formatFault? text rest
  | [] => some ("format " ++ cited text ++ " has no % directive")
where
  /-- A text has a directive. -/
  hasDirective : List Char → Bool
    | '%' :: '%' :: rest => hasDirective rest
    | '%' :: _ => true
    | _ :: rest => hasDirective rest
    | [] => false

/-- The options of a row of numbers end at the first number, before which a mark is put. The first
text is an option's value if it is `owed`. -/
def rowOptions (owed : Bool) : List String → List String
  | [] => []
  | arg :: rest =>
    if owed then arg :: rowOptions false rest
    else
      match arg.toList with
      | '-' :: c :: _ =>
        if c.isDigit || c = '.' then "--" :: arg :: rest
        else arg :: rowOptions (arg = "-f" || arg = "-s") rest
      | _ => "--" :: arg :: rest

/-- Writes the numbers from a first one to a last one by a step. -/
def seq (args : List String) : Act Unit := do
  let f ← options {
    letters := "f:s:w"
    names := [("format", 'f', .value), ("separator", 's', .value), ("equal-width", 'w', .nothing)]
    stops := true } (rowOptions false args)
  match f.operands with
  | [] => misuse "missing operand"
  | _ :: _ :: _ :: extra :: _ => misuse ("extra operand " ++ cited extra)
  | _ => pure ()
  if let some fault := (f.value? 'f').bind fun text => formatFault? text text.toList then fail fault
  if f.has 'f' && f.has 'w' then
    misuse "format string may not be specified when printing equal width strings"
  let number := fun (text : String) => do
    match rowNumber? text with
    | some n => pure n
    | none =>
      let lower := text.toLower
      if lower = "nan" || lower = "-nan" then
        misuse ("invalid 'not-a-number' argument: " ++ cited text)
      else if lower = "inf" || lower = "infinity" then pure ⟨tenTo 18, 0⟩
      else misuse ("invalid floating point argument: " ++ cited text)
  let one : RowNumber := ⟨1, 0⟩
  let (first, step, last) ← match f.operands with
    | [] => pure (one, one, one)
    | [last] => do pure (one, one, ← number last)
    | [first, last] => do
      let first ← number first
      pure (first, one, ← number last)
    | first :: step :: last :: _ => do
      let first ← number first
      let step' ← number step
      if step'.value = 0 then misuse ("invalid Zero increment value: " ++ cited step)
      pure (first, step', ← number last)
  let places := max first.places step.places
  let scale := max places last.places
  let a := first.scaled scale
  let d := step.scaled scale
  let b := last.scaled scale
  let count := if (0 < d && b < a) || (d < 0 && a < b) then 0 else ((b - a) / d + 1).toNat
  let shrink := tenTo (scale - places)
  let values := (List.range (min count 400000)).map fun (n : Nat) => (a + d * n) / shrink
  let width := if f.has 'w' then
      let ends := values.take 1 ++ values.getLast?.toList
      let widths := ends.map fun value => (rowText places 0 value).length
      let limit := (rowText places 0 (b / shrink)).length
      (limit :: widths).foldl max 0
    else 0
  let texts ← match f.value? 'f' with
    | none => pure (values.map (rowText places width))
    | some format =>
      pure (values.map fun value =>
        String.ofList (Format.outputOf (Format.print .tool format [rowText places 0 value]).1))
  if !texts.isEmpty then
    writeText (String.intercalate ((f.value? 's').getD "\n") texts ++ "\n")

namespace Factor

/-- A power of a number, as it remains on division by another one. -/
def powerMod (modulus : Nat) : Nat → Nat → Nat → Nat
  | 0, _, _ => 1
  | fuel + 1, base, power =>
    if power = 0 then 1 % modulus
    else
      let half := powerMod modulus fuel (base * base % modulus) (power / 2)
      if power % 2 = 1 then base * half % modulus else half

/-- The number passes for a prime with a base: a root of one that comes from the base is one or
its negative. -/
def passes (n base : Nat) : Bool :=
  let even := (List.range n.log2).takeWhile fun k => (n - 1) % Nat.pow 2 (k + 1) = 0
  let odd := (n - 1) / Nat.pow 2 even.length
  let first := powerMod n (n.log2 + 1) base odd
  let squares := (List.range (even.length - 1)).foldl (fun all _ =>
    all ++ [(all.getLast?).elim first fun x => x * x % n]) [first]
  n % base = 0 || first = 1 || squares.contains (n - 1)

/-- The number is a prime. The bases are enough for all numbers below a quadrillion of
millions. -/
def isPrime (n : Nat) : Bool :=
  2 ≤ n && (n = 2 || n % 2 = 1) &&
    [2, 3, 5, 7, 11, 13, 17, 19, 23, 29, 31, 37].all fun base => n = base || passes n base

/-- The prime factors of a number none of which is less than a divisor. -/
def factorsFrom : Nat → Nat → Nat → List Nat
  | 0, _, n => [n]
  | fuel + 1, divisor, n =>
    if n ≤ 1 then []
    else if n < divisor * divisor then [n]
    else if n % divisor = 0 then
      let rest := n / divisor
      divisor :: (if isPrime rest then [rest] else factorsFrom fuel divisor rest)
    else factorsFrom fuel (if divisor = 2 then 3 else divisor + 2) n

/-- The prime factors of a number. -/
def factors (n : Nat) : List Nat :=
  if isPrime n then [n] else factorsFrom (Nat.pow 2 (n.log2 / 2 + 1) + n.log2) 2 n

/-- A number with its factors. -/
def line (powers : Bool) (n : Nat) : String :=
  let all := factors n
  let parts := if powers then
      (all.splitBy (· == ·)).map fun group =>
        toString (group.headD 0) ++
          (if group.length = 1 then "" else "^" ++ toString group.length)
    else all.map toString
  toString n ++ ":" ++ String.join (parts.map (" " ++ ·))

/-- Writes the prime factors of numbers. -/
def run (args : List String) : Act Unit := do
  let f ← options { letters := "h", names := [("exponents", 'h', .nothing)] } args
  let words ← if f.operands.isEmpty then do
      let isBlank := fun (c : Char) => c = ' ' || c = '\t' || c = '\n'
      needInput "error reading input"
      let text ← readAll 0
      pure (((text.splitBy fun a b => isBlank a = isBlank b).filter fun word =>
        !word.any isBlank).map String.ofList)
    else pure f.operands
  forAll words fun word =>
    let digits := match word.toList.dropWhile (· = ' ') with
      | '+' :: digits => digits
      | digits => digits
    match leadingNumber digits with
    | some (n, []) => writeLines [line (f.has 'h') n]
    | _ => deplore (cited word ++ " is not a valid positive integer")

end Factor

namespace Expr

/-- The value of an expression. -/
abbrev Value := String

/-- A whole number. -/
def number? (text : String) : Option Int :=
  let digits := if text.startsWith "-" then text.toList.drop 1 else text.toList
  if digits.isEmpty || !digits.all Char.isDigit then none
  else
    let n : Int := ((Text.digitsAfter 10 0 digits).getD 0 : Nat)
    some (if text.startsWith "-" then -n else n)

/-- A value counts as nothing: it is empty, or the number zero. -/
def isNull (text : Value) : Bool :=
  text.isEmpty || (text.toList.all (fun c => c = '0' || c = '-') && text ≠ "-" &&
    number? text = some 0)

/-- A refused expression: the words for it. -/
abbrev Reading (α : Type) := StateT (List String × String) (Except String) α

/-- Takes the next argument, which has to be there. -/
def next : Reading String := fun (rest, last) =>
  match rest with
  | [] => .error ("syntax error: missing argument after " ++ cited last)
  | arg :: rest => .ok (arg, (rest, arg))

/-- The next argument, if there is one. -/
def peek : Reading (Option String) := fun (rest, last) =>
  .ok (rest.head?, (rest, last))

/-- The part of a text that an expression stands for at its start: the first group if there is one,
or else the number of characters. -/
def matched (text pattern : String) : Except String Value := do
  match Regex.read { emptyRanges := true } pattern.toList with
  | .error refusal => .error refusal.message
  | .ok regex =>
    let all := text.toList.toArray
    match regex.farthest? all 0 with
    | none => .ok (if regex.groupCount = 0 then "0" else "")
    | some p =>
      if regex.groupCount = 0 then .ok (toString p.position)
      else .ok (String.ofList (({ start := 0, stop := p.position, groups := p.groups } :
        Regex.Match).group all 1))

/-- A place and a length as numbers from one on. -/
def slice (text place length : String) : Value :=
  match number? place, number? length with
  | some p, some n =>
    if p ≤ 0 || n ≤ 0 then ""
    else String.ofList ((text.toList.drop (p.toNat - 1)).take n.toNat)
  | _, _ => ""

/-- The place of the first character that is among some others. -/
def indexOf (text chars : String) : Value :=
  match text.toList.findIdx? chars.toList.contains with
  | some n => toString (n + 1)
  | none => "0"

/-- The argument that has been taken last. -/
def lastTaken : Reading String := fun st => .ok (st.2, st)

/-- Calculates with two numbers. -/
def calculate (op : String) (left right : Value) : Except String Value :=
  match number? left, number? right with
  | some a, some b =>
    match op with
    | "+" => .ok (toString (a + b))
    | "-" => .ok (toString (a - b))
    | "*" => .ok (toString (a * b))
    | _ =>
      if b = 0 then .error "division by zero"
      else .ok (toString (if op = "/" then Int.tdiv a b else Int.tmod a b))
  | _, _ => .error "non-integer argument"

/-- Compares two values, as numbers if both are. -/
def compare (op : String) (left right : Value) : Except String Value :=
  let below : Value → Value → Bool := fun a b =>
    match number? a, number? b with
    | some a, some b => a < b
    | _, _ => a < b
  let less := below left right
  let more := below right left
  let holds := match op with
    | "<" => less
    | "<=" => !more
    | "=" | "==" => !less && !more
    | "!=" => less || more
    | ">=" => !less
    | _ => more
  .ok (if holds then "1" else "0")

/-- Evaluates operands joined by operators of one level, from the left. -/
def chain (operators : List String) (inner : Reading Value)
    (apply : String → Value → Value → Except String Value) : Nat → Value → Reading Value
  | 0, left => pure left
  | fuel + 1, left => do
    match ← peek with
    | some op =>
      if operators.contains op then
        let _ ← next
        let right ← inner
        chain operators inner apply fuel (← apply op left right)
      else pure left
    | none => pure left

mutual

/-- Evaluates an operand. -/
def operand : Nat → Reading Value
  | 0 => pure ""
  | fuel + 1 => do
    let arg ← next
    match arg with
    | "(" =>
      let value ← either fuel
      match ← peek with
      | some ")" =>
        let _ ← next
        pure value
      | some other => throw ("syntax error: expecting ')' instead of " ++ cited other)
      | none => throw ("syntax error: expecting ')' after " ++ cited (← lastTaken))
    | ")" => throw "syntax error: unexpected ')'"
    | "+" => next
    | "length" =>
      let text ← operand fuel
      pure (toString text.length)
    | "match" =>
      let text ← operand fuel
      let pattern ← operand fuel
      matched text pattern
    | "index" =>
      let text ← operand fuel
      let chars ← operand fuel
      pure (indexOf text chars)
    | "substr" =>
      let text ← operand fuel
      let place ← operand fuel
      let length ← operand fuel
      pure (slice text place length)
    | text => pure text

/-- Evaluates matches. -/
def matches' : Nat → Reading Value
  | 0 => pure ""
  | fuel + 1 => do
    let first ← operand fuel
    chain [":"] (operand fuel) (fun _ text pattern => matched text pattern) fuel first

/-- Evaluates products. -/
def product : Nat → Reading Value
  | 0 => pure ""
  | fuel + 1 => do
    let first ← matches' fuel
    chain ["*", "/", "%"] (matches' fuel) calculate fuel first

/-- Evaluates sums. -/
def sum : Nat → Reading Value
  | 0 => pure ""
  | fuel + 1 => do
    let first ← product fuel
    chain ["+", "-"] (product fuel) calculate fuel first

/-- Evaluates comparisons. -/
def comparison : Nat → Reading Value
  | 0 => pure ""
  | fuel + 1 => do
    let first ← sum fuel
    chain ["<", "<=", "=", "==", "!=", ">=", ">"] (sum fuel) compare fuel first

/-- Evaluates conditions that have to hold together. -/
def both : Nat → Reading Value
  | 0 => pure ""
  | fuel + 1 => do
    let first ← comparison fuel
    chain ["&"] (comparison fuel) (fun _ a b => .ok (if isNull a || isNull b then "0" else a)) fuel
      first

/-- Evaluates conditions of which one has to hold. -/
def either : Nat → Reading Value
  | 0 => pure ""
  | fuel + 1 => do
    let first ← both fuel
    chain ["|"] (both fuel)
      (fun _ a b => .ok (if !isNull a then a else if !isNull b then b else "0")) fuel first

end

/-- Evaluates an expression. -/
def run (args : List String) : Act Unit := do
  let args := if args.head? = some "--" then args.drop 1 else args
  if args.isEmpty then misuse "missing operand" 2
  match (either (8 * args.length + 16)).run (args, "") with
  | .error text => fail text 2
  | .ok (value, rest, _) =>
    match rest with
    | extra :: _ => fail ("syntax error: unexpected argument " ++ cited extra) 2
    | [] =>
      writeText (value ++ "\n")
      finish (if isNull value then 1 else 0)

end Expr

end RemoteAttach.Tool
