import RemoteAttach.Decimal.Places
import RemoteAttach.Shell.Format

/-! Values of the pattern language: numbers and texts, and texts of the input, which count as
numbers if they look like one. -/

namespace RemoteAttach.Tool.Awk

open Decimal (Quantity)
open Shell (Format.Directive)

/-- A value. A variable that has not been set is blank: zero as a number, and empty as a text. -/
inductive Value where
  | blank
  | number (x : Float)
  | text (s : List Char)
  /-- A text of the input. -/
  | input (s : List Char)

/-- The number at the start of a text, or zero. -/
def readNumber (s : List Char) : Float :=
  (Quantity.read s).1.toFloat

/-- A blank of a number in the input. -/
def isBlank (c : Char) : Bool :=
  c = ' ' || ('\t' ≤ c && c ≤ '\x0d')

/-- A text looks like a number as a whole. -/
def looksNumeric (s : List Char) : Bool :=
  let body := s.dropWhile isBlank
  let (_, count) := Quantity.read body
  let last := (body.take count).getLast?
  let first := (body.dropWhile fun c => c = '-' || c = '+').head?
  count ≠ 0 && (body.drop count).all isBlank && first.any (fun c => c.isDigit || c = '.') &&
    last.any fun c => c.isDigit || c = '.'

/-- The whole number nearest to zero from a number, within the limits of 64 bits. -/
def wholePart (x : Float) : Int :=
  match Quantity.ofFloat x with
  | .ratio negative num den =>
    let size := num / den
    if negative then -(min size 0x7FFFFFFFFFFFFFFF : Nat)
    else (min size 0xFFFFFFFFFFFFFFFF : Nat)
  | .infinite negative => if negative then -0x7FFFFFFFFFFFFFFF else 0xFFFFFFFFFFFFFFFF
  | .undefined _ => -0x8000000000000000

/-- The number that a whole number stands for. -/
def ofInt (n : Int) : Float :=
  if n < 0 then -(Float.ofNat n.natAbs) else Float.ofNat n.natAbs

/-- The flags of a directive. -/
def directiveFlags : List Char := ['-', '+', ' ', '#', '0']

/-- A number in the form of a directive, such as one for six digits. -/
def inForm (form : List Char) (x : Float) : List Char :=
  match form with
  | '%' :: rest =>
    let flags := rest.takeWhile directiveFlags.contains
    let rest := rest.drop flags.length
    let width := rest.takeWhile Char.isDigit
    let rest := rest.drop width.length
    let (precision, rest) := match rest with
      | '.' :: more =>
        let digits := more.takeWhile Char.isDigit
        (some (Shell.Format.valueOf 10 digits), more.drop digits.length)
      | _ => (none, rest)
    match rest with
    | letter :: after =>
      let d : Format.Directive := ⟨flags, Shell.Format.valueOf 10 width, precision, letter⟩
      if letter = 'd' || letter = 'i' then Shell.Format.integerText d (wholePart x) ++ after
      else Shell.Format.quantityText d (Quantity.ofFloat x) ++ after
    | [] => form
  | _ => form

/-- The largest number that is written by its digits. -/
def maxInteger : Nat := 0x7FFFFFFF

/-- A number as a text: whole numbers that are not too large by their digits, others in a form. An
operation without a result has a sign. -/
def numberText (form : List Char) (x : Float) : List Char :=
  let whole := wholePart x
  if x.isNaN then "-nan".toList
  else if whole.natAbs ≤ maxInteger && ofInt whole == x then (toString whole).toList
  else inForm form x

namespace Value

/-- The value as a number. -/
def toNumber : Value → Float
  | blank => 0
  | number x => x
  | text s | input s => readNumber s

/-- The value as a text, with a form for numbers that are not whole. -/
def toText (form : List Char) : Value → List Char
  | blank => []
  | number x => numberText form x
  | text s | input s => s

/-- The value counts as true. -/
def holds : Value → Bool
  | blank => false
  | number x => x != 0
  | text s => !s.isEmpty
  | input s => if looksNumeric s then readNumber s != 0 else !s.isEmpty

/-- The value is a number, or may be taken for one. -/
def isNumeric : Value → Bool
  | blank | number _ => true
  | text _ => false
  | input s => looksNumeric s

/-- How two values compare, as numbers if both may be taken for one. What is no number counts as
equal to every number. -/
def compare (form : List Char) (a b : Value) : Ordering :=
  if a.isNumeric && b.isNumeric then
    let x := a.toNumber
    let y := b.toNumber
    if x < y then .lt else if y < x then .gt else .eq
  else
    let s := String.ofList (a.toText form)
    let t := String.ofList (b.toText form)
    if s < t then .lt else if t < s then .gt else .eq

/-- The value of a condition. -/
def ofBool (b : Bool) : Value :=
  number (if b then 1 else 0)

end Value

end RemoteAttach.Tool.Awk
