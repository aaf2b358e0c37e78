import RemoteAttach.Tool.Awk.Value

/-! Formatted text of the pattern language: every directive takes one value. -/

namespace RemoteAttach.Tool.Awk.Format

open Decimal (Quantity)
open Shell.Format (Directive)

/-- Why a text cannot be formatted. -/
inductive Fault where
  | tooFew
  | conversion (count : Nat)

/-- The words for a fault. -/
def Fault.message (shown : String) : Fault → String
  | tooFew => "not enough arguments passed to " ++ shown
  | conversion count => "improper conversion(number " ++ toString count ++ ") in " ++ shown

/-- A character, given by its number or as the first one of a text. -/
def charOf (form : List Char) (v : Value) : Char :=
  match v with
  | .number x => Char.ofNat (((wholePart x) % 256).toNat)
  | .input s =>
    if looksNumeric s then Char.ofNat (((wholePart (readNumber s)) % 256).toNat)
    else s.headD '\x00'
  | v => (v.toText form).headD '\x00'

/-- The text for a value as a directive asks, if there is one of its letter. -/
def directive? (form : List Char) (d : Directive) (v : Value) : Option (List Char) :=
  match d.letter with
  | 'd' | 'i' | 'o' | 'x' | 'X' | 'u' => some (Shell.Format.integerText d (wholePart v.toNumber))
  | 'e' | 'E' | 'f' | 'F' | 'g' | 'G' =>
    some (Shell.Format.quantityText d (Quantity.ofFloat v.toNumber))
  | 's' => some (Shell.Format.stringText d (v.toText form))
  | 'c' => some (Shell.Format.padded d false [] [charOf form v])
  | _ => none

/-- A number in a format, or one that is taken from the values. -/
def measure (text : List Char) (args : List Value) :
    Option (Option Int × Nat × List Value) :=
  match text, args with
  | '*' :: _, v :: args => some (some (wholePart v.toNumber), 1, args)
  | '*' :: _, [] => none
  | text, args =>
    let digits := text.takeWhile Char.isDigit
    some (if digits.isEmpty then none else some (Shell.Format.valueOf 10 digits : Nat),
      digits.length, args)

/-- The text that a format makes of some values, and what is wrong if something is. `count` is the
number of directives before, and `done` the text so far in reverse. -/
def textFrom (form : List Char) :
    Nat → Nat → List Char → List Value → List Char → List Char × Option Fault
  | _, _, [], _, done => (done.reverse, none)
  | skip + 1, count, _ :: rest, args, done => textFrom form skip count rest args done
  | 0, count, '%' :: rest, args, done =>
    match rest with
    | '%' :: _ => textFrom form 1 count rest args ('%' :: done)
    | _ =>
      let flags := rest.takeWhile directiveFlags.contains
      match measure (rest.drop flags.length) args with
      | none => (done.reverse, some .tooFew)
      | some (width, widthSize, args) =>
        let at1 := flags.length + widthSize
        let precision : Option (Option Int × Nat × List Value) := match rest.drop at1 with
          | '.' :: more =>
            (measure more args).map fun (n, size, args) => (some (n.getD 0), 1 + size, args)
          | _ => some (none, 0, args)
        match precision with
        | none => (done.reverse, some .tooFew)
        | some (precision, size, args) =>
          let at2 := at1 + size
          let modifiers := (rest.drop at2).takeWhile fun c => c = 'h' || c = 'l'
          let at3 := at2 + modifiers.length
          match args with
          | [] => (done.reverse, some .tooFew)
          | v :: args =>
            let letter := (rest.drop at3).headD ' '
            let flags := if width.any (· < 0) then '-' :: flags else flags
            let precision := (precision.filter (0 ≤ ·)).map Int.toNat
            let d : Directive := ⟨flags, (width.getD 0).natAbs, precision, letter⟩
            match directive? form d v with
            | none => (done.reverse, some (.conversion (count + 1)))
            | some text =>
              textFrom form (at3 + 1) (count + 1) rest args (text.reverse ++ done)
  | 0, count, c :: rest, args, done => textFrom form 0 count rest args (c :: done)

end RemoteAttach.Tool.Awk.Format
