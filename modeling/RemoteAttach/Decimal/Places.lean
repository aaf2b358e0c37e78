import RemoteAttach.Decimal.Binary64
import RemoteAttach.Text.Numeral

/-! Numbers with a point: how they are read from a text, how they are rounded to a number of binary
digits, and how they are written with a given number of decimal places or digits. Every value is an
exact ratio, and each step rounds once, on a tie to the even neighbour. -/

namespace RemoteAttach.Decimal

/-- A number with a point. -/
inductive Quantity where
  /-- The ratio of two whole numbers, with a sign. -/
  | ratio (negative : Bool) (num den : Nat)
  | infinite (negative : Bool)
  | undefined (negative : Bool)
  deriving DecidableEq, Repr

namespace Quantity

/-- The number is below zero, or the negative zero. -/
def isNegative : Quantity → Bool
  | ratio negative _ _ | infinite negative | undefined negative => negative

/-- The ratio rounded to a number of binary digits. -/
def roundTo (bits num den : Nat) : Nat × Nat :=
  if num = 0 then (0, 1)
  else
    let low : Int := (num.log2 : Int) - (den.log2 : Int) - bits
    let (n, d) := timesPowTwo num den (-low)
    let e := if n < d * (1 <<< bits) then low else low + 1
    let (n, d) := timesPowTwo num den (-e)
    timesPowTwo (divToEven n d) 1 e

/-- The number rounded to a number of binary digits. -/
def rounded (bits : Nat) : Quantity → Quantity
  | ratio negative num den =>
    let (num, den) := roundTo bits num den
    ratio negative num den
  | other => other

/-- The text begins with a word in either letter case. -/
def beginsWith (word : String) (text : List Char) : Bool :=
  (text.take word.length).map Char.toLower = word.toList

/-- The value of an exponent at the start of a text that a letter of `marks` begins, and its
length; zero if there is none. -/
def exponent (marks : List Char) : List Char → Int × Nat
  | c :: rest =>
    if !marks.contains c then (0, 0)
    else
      let signed := rest.head? = some '-' || rest.head? = some '+'
      let digits := ((if signed then rest.drop 1 else rest).takeWhile Char.isDigit)
      if digits.isEmpty then (0, 0)
      else
        let value : Int := ((Text.digitsAfter 10 0 digits).getD 0 : Nat)
        let value := if value < 20000 then value else 20000
        (if rest.head? = some '-' then -value else value,
          1 + (if signed then 1 else 0) + digits.length)
  | [] => (0, 0)

/-- The unsigned number at the start of a text, and its length; the length is zero if there is
none. -/
def readUnsigned (negative : Bool) (text : List Char) : Quantity × Nat :=
  let run := fun (base : Nat) (text : List Char) =>
    text.takeWhile fun c => (Text.digit? base c).isSome
  let number := fun (base : Nat) (text : List Char) =>
    let whole := run base text
    let after := text.drop whole.length
    let fraction := if after.head? = some '.' then run base (after.drop 1) else []
    let point := if after.head? = some '.' && !(whole.isEmpty && fraction.isEmpty) then 1 else 0
    let value := (Text.digitsAfter base 0 (whole ++ fraction)).getD 0
    (value, fraction.length, whole.length + point + fraction.length)
  let scaled := fun (base value places : Nat) (power : Int) (factor : Nat) =>
    let num := value * (if 0 ≤ power then Nat.pow factor power.toNat else 1)
    let den := Nat.pow base places * (if 0 ≤ power then 1 else Nat.pow factor (-power).toNat)
    ratio negative num den
  if beginsWith "infinity" text then (infinite negative, 8)
  else if beginsWith "inf" text then (infinite negative, 3)
  else if beginsWith "nan" text then (undefined negative, 3)
  else if beginsWith "0x" text && (number 16 (text.drop 2)).2.2 ≠ 0 then
    let (value, places, count) := number 16 (text.drop 2)
    let (power, more) := exponent ['p', 'P'] (text.drop (2 + count))
    (scaled 16 value places power 2, 2 + count + more)
  else
    let (value, places, count) := number 10 text
    if count = 0 then (ratio negative 0 1, 0)
    else
      let (power, more) := exponent ['e', 'E'] (text.drop count)
      (scaled 10 value places power 10, count + more)

/-- The number at the start of a text, after blanks and a sign, and the number of characters up to
its end; that is zero if there is none. -/
def read (text : List Char) : Quantity × Nat :=
  let body := text.dropWhile fun c => c = ' ' || ('\t' ≤ c && c ≤ '\x0d')
  let signed := body.head? = some '-' || body.head? = some '+'
  let (value, count) := readUnsigned (body.head? = some '-') (if signed then body.drop 1 else body)
  let before := (text.length - body.length) + (if signed then 1 else 0)
  (value, if count = 0 then 0 else before + count)

/-- The digits of a number, of which the last `places` stand behind the point. -/
def withPoint (places : Nat) (keepsPoint : Bool) (value : Nat) : List Char :=
  let digits := Nat.toDigits 10 value
  let digits := List.replicate (places + 1 - digits.length) '0' ++ digits
  let whole := digits.take (digits.length - places)
  if places = 0 then if keepsPoint then whole ++ ['.'] else whole
  else whole ++ '.' :: digits.drop whole.length

/-- A ratio with a number of decimal places. -/
def fixed (places : Nat) (keepsPoint : Bool) (num den : Nat) : List Char :=
  withPoint places keepsPoint (divToEven (num * Nat.pow 10 places) den)

/-- The exponent of ten of the first digit of a ratio that is not zero. -/
def exponentOf (num den : Nat) : Int :=
  let guess : Int := ((num.log2 : Int) - (den.log2 : Int)) * 30103 / 100000
  let reaches := fun (e : Int) =>
    if 0 ≤ e then decide (den * Nat.pow 10 e.toNat ≤ num)
    else decide (den ≤ num * Nat.pow 10 (-e).toNat)
  ([guess + 2, guess + 1, guess, guess - 1].find? reaches).getD (guess - 2)

/-- The digits of a ratio, one before the point and `places` behind it, as a whole number, and its
exponent of ten. -/
def digitsOf (places num den : Nat) : Nat × Int :=
  if num = 0 then (0, 0)
  else
    let e := exponentOf num den
    let shift : Int := places - e
    let value :=
      if 0 ≤ shift then divToEven (num * Nat.pow 10 shift.toNat) den
      else divToEven num (den * Nat.pow 10 (-shift).toNat)
    if value = Nat.pow 10 (places + 1) then (value / 10, e + 1) else (value, e)

/-- An exponent of ten of at least two digits, after its mark and sign. -/
def exponentText (mark : Char) (e : Int) : List Char :=
  let digits := Nat.toDigits 10 e.natAbs
  mark :: (if 0 ≤ e then '+' else '-') :: (if digits.length < 2 then '0' :: digits else digits)

/-- A ratio with one digit before the point and an exponent of ten. -/
def scientific (mark : Char) (places : Nat) (keepsPoint : Bool) (num den : Nat) : List Char :=
  let (value, e) := digitsOf places num den
  withPoint places keepsPoint value ++ exponentText mark e

/-- A text without the zeros at the end of its decimal places. -/
def dropZeros (text : List Char) : List Char :=
  if text.contains '.' then
    let kept := text.reverse.dropWhile (· = '0')
    (if kept.head? = some '.' then kept.drop 1 else kept).reverse
  else text

/-- A ratio with a number of digits, with or without an exponent of ten, whichever is shorter. -/
def general (mark : Char) (digits : Nat) (keepsZeros : Bool) (num den : Nat) : List Char :=
  let digits := if digits = 0 then 1 else digits
  let (value, e) := digitsOf (digits - 1) num den
  let tidy := if keepsZeros then id else dropZeros
  if e < -4 || (digits : Int) ≤ e then
    tidy (withPoint (digits - 1) keepsZeros value) ++ exponentText mark e
  else tidy (fixed ((digits : Int) - 1 - e).toNat keepsZeros num den)

/-- The number in one of the forms `f`, `e` and `g`, without its sign. A capital letter gives
capitals. -/
def text (form : Char) (precision : Option Nat) (alternate : Bool) (q : Quantity) : List Char :=
  let upper := form.isUpper
  let raise := fun (text : String) => (if upper then text.toUpper else text).toList
  let places := precision.getD 6
  match q with
  | infinite _ => raise "inf"
  | undefined _ => raise "nan"
  | ratio _ num den =>
    let mark := if upper then 'E' else 'e'
    match form.toLower with
    | 'f' => fixed places alternate num den
    | 'e' => scientific mark places alternate num den
    | _ => general mark places alternate num den

/-- The number of a floating-point value of 64 bits. -/
def ofFloat (x : Float) : Quantity :=
  let bits := x.toBits.toNat
  let negative := bits / 0x8000000000000000 % 2 = 1
  let exponent := bits / 0x10000000000000 % 0x800
  let fraction := bits % 0x10000000000000
  if exponent = 0x7FF then if fraction = 0 then infinite negative else undefined negative
  else
    let (mantissa, e) : Nat × Int :=
      if exponent = 0 then (fraction, -1074)
      else (fraction + 0x10000000000000, (exponent : Int) - 1075)
    let (num, den) := timesPowTwo mantissa 1 e
    ratio negative num den

/-- The floating-point value of 64 bits that is nearest to a number. -/
def toFloat : Quantity → Float
  | infinite negative => if negative then -1.0 / 0.0 else 1.0 / 0.0
  | undefined _ => 0.0 / 0.0
  | ratio negative num den =>
    let size := match Magnitude.ofRatio? num den with
      | some m => (Float.ofNat m.mantissa).scaleB m.exponent
      | none => 1.0 / 0.0
    if negative then -size else size

end Quantity

end RemoteAttach.Decimal
