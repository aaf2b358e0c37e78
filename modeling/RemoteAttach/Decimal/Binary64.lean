/-! Floating-point numbers of 64 bits, given exactly: a magnitude is a whole number of at most 53
bits times a power of two. Every operation is an exact ratio of whole numbers that is rounded once,
to the nearest magnitude and on a tie to the even one. -/

namespace RemoteAttach.Decimal

/-- The value `mantissa * 2 ^ exponent`. Rounding gives a mantissa of 53 bits, or a shorter one with
the least exponent. -/
structure Magnitude where
  mantissa : Nat
  exponent : Int
  deriving DecidableEq, Repr

/-- A magnitude with a sign; zero has two signs. -/
structure Binary64 where
  negative : Bool
  magnitude : Magnitude
  deriving DecidableEq, Repr

/-- The least exponent of a magnitude. -/
def minExponent : Int := -1074

/-- The greatest exponent of a magnitude. -/
def maxExponent : Int := 971

/-- The least number of 54 bits; the mantissas of rounded magnitudes lie below it. -/
def mantissaLimit : Nat := 0x20000000000000

/-- The ratio `num / den * 2 ^ e` as a numerator and a denominator. -/
def timesPowTwo (num den : Nat) (e : Int) : Nat × Nat :=
  if 0 ≤ e then (num <<< e.toNat, den) else (num, den <<< (-e).toNat)

/-- The whole number nearest to `num / den`, and on a tie the even one. -/
def divToEven (num den : Nat) : Nat :=
  let quotient := num / den
  let twice := 2 * (num % den)
  if twice < den then quotient
  else if den < twice then quotient + 1
  else quotient + quotient % 2

namespace Magnitude

/-- The magnitude zero. -/
def zero : Magnitude := ⟨0, minExponent⟩

/-- The exponent for which `num / den` has a mantissa of 53 bits, or the least exponent. -/
def exponentFor (num den : Nat) : Int :=
  let low : Int := (num.log2 : Int) - (den.log2 : Int) - 53
  let (n, d) := timesPowTwo num den (-low)
  max minExponent (if n < d * mantissaLimit then low else low + 1)

/-- The magnitude nearest to `num / den`, or nothing if that is beyond the greatest. -/
def ofRatio? (num den : Nat) : Option Magnitude :=
  if num = 0 then some zero
  else
    let e := exponentFor num den
    let (n, d) := timesPowTwo num den (-e)
    let m := divToEven n d
    let rounded : Magnitude := if m = mantissaLimit then ⟨m / 2, e + 1⟩ else ⟨m, e⟩
    if maxExponent < rounded.exponent then none else some rounded

/-- The value as a numerator and a denominator. -/
def ratio (x : Magnitude) : Nat × Nat :=
  timesPowTwo x.mantissa 1 x.exponent

/-- The magnitude nearest to a product. -/
def mul? (x y : Magnitude) : Option Magnitude :=
  ofRatio? (x.ratio.1 * y.ratio.1) (x.ratio.2 * y.ratio.2)

/-- The magnitude nearest to a quotient. -/
def div? (x y : Magnitude) : Option Magnitude :=
  ofRatio? (x.ratio.1 * y.ratio.2) (x.ratio.2 * y.ratio.1)

/-- The magnitude nearest to a power of ten. -/
def powTen? (n : Nat) : Option Magnitude :=
  ofRatio? (Nat.pow 10 n) 1

/-- The greatest power of ten that is a magnitude. -/
def maxPowTen : Nat := 308

/-- The magnitude divided by the greatest power of ten, up to `times` times and until it is zero. -/
def divDown : Nat → Magnitude → Magnitude
  | 0, x => x
  | times + 1, x =>
    if x.mantissa = 0 then x
    else divDown times (((powTen? maxPowTen).bind x.div?).getD zero)

/-- The magnitude of `significand * 10 ^ exponent`, reached by rounding the significand and then
multiplying or dividing it by a rounded power of ten, or nothing if the result is too large. An
exponent below the powers of ten is reached in steps of the greatest of them. -/
def ofDecimal? (significand : Nat) (exponent : Int) : Option Magnitude := do
  let x ← ofRatio? significand 1
  if 0 ≤ exponent then
    if exponent ≤ maxPowTen then x.mul? (← powTen? exponent.toNat)
    else if x.mantissa = 0 then some x
    else none
  else
    let down := (-exponent).toNat
    let steps := (down - 1) / maxPowTen
    (divDown steps x).div? (← powTen? (down - steps * maxPowTen))

end Magnitude

end RemoteAttach.Decimal
