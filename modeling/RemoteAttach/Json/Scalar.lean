import RemoteAttach.Json.Reader

/-! The scalars of a JSON text: string literals with their escapes, and numbers. A number without
fraction and exponent stays whole if it fits 64 bits. Any other is a significand of 64 bits times
a power of ten: digits that no longer fit only raise the power before the point, and are dropped
after it. -/

namespace RemoteAttach.Json.Reader

open RemoteAttach.Decimal

/-- The value of the four hexadecimal digits of an escape. -/
def hexCode : Reader Nat := fun cur =>
  let broken : Except Fault (Nat × Cursor) :=
    if (String.ofList (cur.rest.take 4)).utf8ByteSize < 4 then
      .error (.placed ⟨.endInString, cur.position.bytesOn 4 cur.rest⟩)
    else .error (.placed ⟨.invalidEscape, cur.position.bytesOn 4 cur.rest⟩)
  match cur.rest with
  | a :: b :: c :: d :: _ =>
    match Text.digitsAfter 16 0 [a, b, c, d] with
    | some code => .ok (code, cur.advance.advance.advance.advance)
    | none => broken
  | _ => broken

/-- The code of a trailing surrogate. -/
def isTrailing (code : Nat) : Bool :=
  0xDC00 ≤ code && code ≤ 0xDFFF

/-- The code of a leading surrogate. -/
def isLeading (code : Nat) : Bool :=
  0xD800 ≤ code && code ≤ 0xDBFF

/-- Moves past the given character of a second escape. -/
def surrogateMark (mark : Char) : Reader Unit := do
  match ← peek with
  | none => failHere .endInString
  | some c => if c = mark then advance else failAhead .unfinishedSurrogate

/-- The character of an escape by code, after its mark. A leading surrogate needs a trailing one
after it. -/
def unicodeEscape : Reader Char := do
  let code ← hexCode
  if isTrailing code then failHere .loneSurrogate
  else if isLeading code then
    surrogateMark '\\'
    surrogateMark 'u'
    let second ← hexCode
    if isTrailing second then
      pure (Char.ofNat (0x10000 + (code - 0xD800) * 0x400 + (second - 0xDC00)))
    else failHere .loneSurrogate
  else pure (Char.ofNat code)

/-- The character that a one-letter escape stands for. -/
def escaped? : Char → Option Char
  | '"' => some '"'
  | '\\' => some '\\'
  | '/' => some '/'
  | 'b' => some '\x08'
  | 'f' => some '\x0c'
  | 'n' => some '\n'
  | 'r' => some '\r'
  | 't' => some '\t'
  | _ => none

/-- The character of an escape, after its backslash. -/
def escape : Reader Char := do
  match ← peek with
  | none => failHere .endInString
  | some 'u' =>
    advance
    unicodeEscape
  | some c =>
    match escaped? c with
    | some d =>
      advance
      pure d
    | none => failAhead .invalidEscape

/-- The characters of a string literal up to its closing quote, which is passed, after those of
`read`, which are held last first. -/
def literalAfter : Nat → List Char → Reader (List Char)
  | 0, _ => failHere .endInString
  | fuel + 1, read => do
    match ← peek with
    | none => failHere .endInString
    | some '"' =>
      advance
      pure read.reverse
    | some '\\' =>
      advance
      let c ← escape
      literalAfter fuel (c :: read)
    | some c =>
      if c.toNat < 0x20 then failAhead .controlCharacter
      else
        advance
        literalAfter fuel (c :: read)

/-- The text of a string literal, after its opening quote. -/
def literal : Reader String := do
  let fuel ← bound
  let chars ← literalAfter (fuel + 1) []
  pure (String.ofList chars)

/-- A decimal digit of a number. -/
def isDigit (c : Char) : Bool :=
  '0' ≤ c && c ≤ '9'

/-- The value of a decimal digit. -/
def digitValue (c : Char) : Nat :=
  c.toNat - '0'.toNat

/-- Moves past the digits ahead, and gives them. -/
def digits : Reader (List Char) := fun cur =>
  let ds := cur.rest.takeWhile isDigit
  let position := { cur.position with column := cur.position.column + ds.length }
  .ok (ds, { cur with rest := cur.rest.drop ds.length, position })

/-- The significand `value` with the digits that still fit 64 bits, and the number of those that
do not. -/
def gather (value : Nat) : List Char → Nat × Nat
  | [] => (value, 0)
  | c :: rest =>
    let next := value * 10 + digitValue c
    if next < UInt64.size then gather next rest else (value, rest.length + 1)

/-- The number of a sign, a significand and a power of ten. -/
def scaled (negative : Bool) (significand : Nat) (exponent : Int) : Reader Number :=
  match Magnitude.ofDecimal? significand exponent with
  | some magnitude => pure (.decimal ⟨negative, magnitude⟩)
  | none => failHere .numberOutOfRange

/-- The exponent worth `value` with the digits ahead, or nothing if a digit takes it past 31 bits;
that digit is passed. -/
def exponentDigits (value : Nat) : Nat → Reader (Option Nat)
  | 0 => pure (some value)
  | fuel + 1 => do
    match ← peek with
    | some c =>
      if isDigit c then
        advance
        let next := value * 10 + digitValue c
        if 2 * next < UInt32.size then exponentDigits next fuel else pure none
      else pure (some value)
    | none => pure (some value)

/-- The number of a significand and a power of ten with the exponent part ahead. -/
def exponentPart (negative : Bool) (significand : Nat) (exponent : Int) : Reader Number := do
  advance
  let down ← do
    match ← peek with
    | some '+' => advance; pure false
    | some '-' => advance; pure true
    | _ => pure false
  match ← peek with
  | none => failHere .endInValue
  | some c =>
    if isDigit c then
      match ← exponentDigits 0 (← bound) with
      | some value =>
        scaled negative significand (if down then exponent - value else exponent + value)
      | none =>
        if significand ≠ 0 && !down then failHere .numberOutOfRange
        else
          let _ ← digits
          pure (.decimal ⟨negative, .zero⟩)
    else failAhead .invalidNumber

/-- The number of a significand and a power of ten, with the exponent part if one is ahead. -/
def withExponent (negative : Bool) (significand : Nat) (exponent : Int) : Reader Number := do
  match ← peek with
  | some 'e' | some 'E' => exponentPart negative significand exponent
  | _ => scaled negative significand exponent

/-- The number of a significand and a power of ten with the fraction ahead. -/
def fraction (negative : Bool) (significand : Nat) (exponent : Int) : Reader Number := do
  advance
  let ds ← digits
  if ds.isEmpty then
    match ← peek with
    | none => failHere .endInValue
    | some _ => failAhead .invalidNumber
  else
    let (significand, dropped) := gather significand ds
    withExponent negative significand (exponent - (ds.length - dropped : Nat))

/-- The number of digits before the point: those of `significand`, and `raised` more that do not
fit. A whole number that fits 64 bits stays whole, except a negative zero. -/
def afterDigits (negative : Bool) (significand raised : Nat) : Reader Number := do
  match ← peek with
  | some '.' => fraction negative significand raised
  | some 'e' | some 'E' => exponentPart negative significand raised
  | _ =>
    if raised ≠ 0 then scaled negative significand raised
    else if !negative then pure (.integer significand)
    else if significand ≠ 0 && 2 * significand ≤ UInt64.size then pure (.integer (-significand))
    else scaled negative significand 0

/-- A number, after its sign. -/
def number (negative : Bool) : Reader Number := do
  match ← peek with
  | none => failHere .endInValue
  | some '0' =>
    advance
    match ← peek with
    | some c => if isDigit c then failAhead .invalidNumber else afterDigits negative 0 0
    | none => afterDigits negative 0 0
  | some c =>
    if isDigit c then
      let ds ← digits
      let (significand, raised) := gather 0 ds
      afterDigits negative significand raised
    else failAhead .invalidNumber

end RemoteAttach.Json.Reader
