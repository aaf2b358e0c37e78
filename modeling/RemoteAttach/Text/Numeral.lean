/-! Unsigned numerals in a base up to sixteen, as they stand in process tables and settings: an
optional plus sign and at least one digit, in either letter case, with a value below a limit. -/

namespace RemoteAttach.Text

/-- The value of a digit of the given base, which is at most sixteen. -/
def digit? (base : Nat) (c : Char) : Option Nat :=
  let n := c.toNat
  let value :=
    if 0x30 ≤ n && n ≤ 0x39 then some (n - 0x30)
    else if 0x61 ≤ n && n ≤ 0x66 then some (n - 0x61 + 10)
    else if 0x41 ≤ n && n ≤ 0x46 then some (n - 0x41 + 10)
    else none
  value.filter (· < base)

/-- The value of a run of digits that follows digits worth `value`. -/
def digitsAfter (base value : Nat) : List Char → Option Nat
  | [] => some value
  | c :: rest => do
    let digit ← digit? base c
    digitsAfter base (value * base + digit) rest

/-- The digits of a numeral without its plus sign. -/
def dropPlus : List Char → List Char
  | '+' :: digits => digits
  | digits => digits

/-- The value of an unsigned numeral, if the text is one and its value is below `limit`. -/
def numeral? (base limit : Nat) (text : List Char) : Option Nat :=
  match dropPlus text with
  | [] => none
  | digits => (digitsAfter base 0 digits).filter (· < limit)

/-- A decimal numeral of a 32-bit word. -/
def word32? (text : List Char) : Option UInt32 :=
  (numeral? 10 UInt32.size text).map UInt32.ofNat

/-- A hexadecimal numeral of a 64-bit word. -/
def hexWord64? (text : List Char) : Option UInt64 :=
  (numeral? 16 UInt64.size text).map UInt64.ofNat

/-- A character that may stand around a numeral. -/
def isAroundNumeral (c : Char) : Bool :=
  c = ' ' || ('\t' ≤ c && c ≤ '\r')

/-- The value of a decimal numeral that may have a sign and blanks around it. It is not below zero,
and has 31 bits. -/
def count? (text : List Char) : Option Nat :=
  let text := (text.dropWhile isAroundNumeral).reverse.dropWhile isAroundNumeral |>.reverse
  match text with
  | '-' :: '+' :: _ => none
  | '-' :: digits => (numeral? 10 (1 <<< 31) digits).filter (· = 0)
  | text => numeral? 10 (1 <<< 31) text

/-- The lower-case hexadecimal digits of a number, without leading zeros. -/
def hexDigits (n : Nat) : List Char :=
  Nat.toDigits 16 n

end RemoteAttach.Text
