import RemoteAttach.Decimal.Binary64

/-! The shortest decimal text of a floating-point number that reads back as the same number: the
fewest digits that fall into the interval of reals that round to it, of those the nearest to it,
and on a tie the even ones. -/

namespace RemoteAttach.Decimal

/-- The value `digits * 10 ^ exponent`. -/
structure Digits where
  digits : Nat
  exponent : Int
  deriving DecidableEq, Repr

/-- The reals that round to a magnitude, in quarters of its unit: from `low` to `high`, around four
times its mantissa. The ends belong to them if the mantissa is even. -/
structure Interval where
  low : Nat
  center : Nat
  high : Nat
  closed : Bool

/-- The interval of a magnitude. Below a power of two the magnitudes lie twice as close, except at
the least exponent. -/
def Interval.ofMagnitude (x : Magnitude) : Interval where
  low := if 2 * x.mantissa = mantissaLimit && minExponent < x.exponent then 4 * x.mantissa - 1
    else 4 * x.mantissa - 2
  center := 4 * x.mantissa
  high := 4 * x.mantissa + 2
  closed := x.mantissa % 2 == 0

/-- The ratio `num / den / 10 ^ e` as a numerator and a denominator. -/
def overPowTen (num den : Nat) (e : Int) : Nat × Nat :=
  if 0 ≤ e then (num, den * Nat.pow 10 e.toNat) else (num * Nat.pow 10 (-e).toNat, den)

/-- The greatest exponent of ten whose power is at most a magnitude that is not zero. -/
def Magnitude.decimalExponent (x : Magnitude) : Int :=
  let (num, den) := x.ratio
  let guess : Int := ((x.mantissa.log2 : Int) + x.exponent) * 30103 / 100000
  let reaches := fun e : Int => let (n, d) := overPowTen num den e; decide (d ≤ n)
  if reaches (guess + 1) then guess + 1 else if reaches guess then guess else guess - 1

/-- The multiple of `10 ^ e` that is nearest to the magnitude among its two neighbours in the
interval, if there is one. -/
def Magnitude.onGrid? (x : Magnitude) (e : Int) : Option Digits :=
  let interval := Interval.ofMagnitude x
  let (unit, den) := timesPowTwo 1 1 (x.exponent - 2)
  let (scale, den) := overPowTen unit den e
  let below := interval.center * scale / den
  let inside := fun n : Nat =>
    let value := n * den
    if interval.closed then
      interval.low * scale ≤ value && value ≤ interval.high * scale
    else interval.low * scale < value && value < interval.high * scale
  let past := interval.center * scale - below * den
  match inside below, inside (below + 1) with
  | true, true =>
    let left := den - past
    if past < left then some ⟨below, e⟩
    else if left < past then some ⟨below + 1, e⟩
    else some ⟨below + below % 2, e⟩
  | true, false => some ⟨below, e⟩
  | false, true => some ⟨below + 1, e⟩
  | false, false => none

/-- The digits without the zeros at their end, of which at most `most` are dropped. -/
def Digits.dropZeros : Nat → Digits → Digits
  | 0, x => x
  | most + 1, x =>
    if x.digits % 10 = 0 && x.digits != 0 then dropZeros most ⟨x.digits / 10, x.exponent + 1⟩
    else x

/-- The shortest digits of a magnitude that is not zero. Seventeen always suffice. -/
def Magnitude.shortest (x : Magnitude) : Digits :=
  let top := x.decimalExponent
  let found := (List.range 17).findSome? fun (n : Nat) => x.onGrid? (top - n)
  (found.getD ⟨0, 0⟩).dropZeros 20

/-- The digits in positional form, with at least one on each side of the point. -/
def Digits.positional (x : Digits) : List Char :=
  let ds := Nat.toDigits 10 x.digits
  let zeros := fun n : Nat => List.replicate n '0'
  if 0 ≤ x.exponent then ds ++ zeros x.exponent.toNat ++ ['.', '0']
  else
    let whole := (ds.length : Int) + x.exponent
    if 0 < whole then ds.take whole.toNat ++ '.' :: ds.drop whole.toNat
    else ['0', '.'] ++ zeros (-whole).toNat ++ ds

/-- The digits with one before the point and an exponent that carries its sign. -/
def Digits.scientific (x : Digits) : List Char :=
  let ds := Nat.toDigits 10 x.digits
  let e := x.exponent + ds.length - 1
  let fraction := if ds.length ≤ 1 then [] else '.' :: ds.drop 1
  let sign := if 0 ≤ e then '+' else '-'
  ds.take 1 ++ fraction ++ 'e' :: sign :: Nat.toDigits 10 e.natAbs

/-- The digits as a number is written: in positional form from `10 ^ -5` up to but not including
`10 ^ 16`, and with an exponent otherwise. -/
def Digits.text (x : Digits) : List Char :=
  let e := x.exponent + (Nat.toDigits 10 x.digits).length - 1
  if -5 ≤ e && e < 16 then x.positional else x.scientific

/-- The shortest text of a number. -/
def Binary64.text (x : Binary64) : List Char :=
  let text := if x.magnitude.mantissa = 0 then ['0', '.', '0'] else x.magnitude.shortest.text
  if x.negative then '-' :: text else text

end RemoteAttach.Decimal
