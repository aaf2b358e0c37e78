import RemoteAttach.Text.Numeral
import RemoteAttach.Text.Split

/-! Changes of permission bits, in the form of digits or of letters: for whom, what is done, and
which permissions are meant. -/

namespace RemoteAttach.Tool.Mode

/-- What is done with permissions. -/
inductive Operator where
  | add
  | remove
  | set
  deriving DecidableEq

/-- One step of a change. -/
structure Step where
  /-- The bits of those whom it is for, or none if nothing is said. -/
  whom : Nat
  operator : Operator
  /-- The permissions that are meant for everyone. -/
  bits : Nat
  /-- Programs and folders may be run. -/
  runs : Bool := false
  /-- The permissions of this one are copied, by the number of places that they are moved. -/
  copies : Option Nat := none

/-- A change of permissions. -/
inductive Change where
  /-- Bits that are set in place of all others. Those for the owner and the group of what a folder
  will hold stay unless all of them are `given`. -/
  | digits (bits : Nat) (given : Bool)
  | stages (steps : List Step)

/-- The bits of those whom a letter stands for. -/
def whom? : Char → Option Nat
  | 'u' => some 0o4700
  | 'g' => some 0o2070
  | 'o' => some 0o1007
  | 'a' => some 0o7777
  | _ => none

/-- The bits that a letter stands for. -/
def bits? : Char → Option Nat
  | 'r' => some 0o444
  | 'w' => some 0o222
  | 'x' => some 0o111
  | 's' => some 0o6000
  | 't' => some 0o1000
  | 'X' => some 0
  | _ => none

/-- The operator of a character. -/
def operator? : Char → Option Operator
  | '+' => some .add
  | '-' => some .remove
  | '=' => some .set
  | _ => none

/-- The steps of a clause after those whom it is for. -/
def stepsFrom (whom : Nat) : Nat → List Char → Option (List Step)
  | 0, _ => none
  | _, [] => some []
  | fuel + 1, c :: rest => do
    let operator ← operator? c
    let letters := rest.takeWhile fun c => (bits? c).isSome
    let step ← match letters, rest with
      | [], 'u' :: _ => some ({ whom, operator, bits := 0, copies := some 6 } : Step)
      | [], 'g' :: _ => some { whom, operator, bits := 0, copies := some 3 }
      | [], 'o' :: _ => some { whom, operator, bits := 0, copies := some 0 }
      | _, _ =>
        let bits := letters.foldl (fun all c => all ||| (bits? c).getD 0) 0
        some { whom, operator, bits, runs := letters.contains 'X' }
    let used := if step.copies.isSome then 1 else letters.length
    let others ← stepsFrom whom fuel (rest.drop used)
    some (step :: others)

/-- The steps of a clause. -/
def clause? (text : List Char) : Option (List Step) :=
  let letters := text.takeWhile fun c => (whom? c).isSome
  let whom := letters.foldl (fun all c => all ||| (whom? c).getD 0) 0
  let rest := text.drop letters.length
  if rest.isEmpty then none else stepsFrom whom (rest.length + 1) rest

/-- The change that a text stands for. -/
def read? (text : String) : Option Change :=
  let chars := text.toList
  match chars with
  | c :: _ =>
    if c.isDigit then
      match Text.digitsAfter 8 0 chars with
      | some bits =>
        if bits ≤ 0o7777 then some (.digits bits (4 < chars.length)) else none
      | none => none
    else ((Text.pieces [','] chars).mapM clause?).map fun all => .stages all.flatten
  | [] => none

/-- The bits after a step. -/
def Step.apply (step : Step) (mask : Nat) (isFolder : Bool) (bits : Nat) : Nat :=
  let copied := step.copies.elim 0 fun places => (bits >>> places &&& 7) * 0o111
  let run := if step.runs && (isFolder || bits &&& 0o111 ≠ 0) then 0o111 else 0
  let meant := step.bits ||| copied ||| run
  let named := if step.whom = 0 then step.bits else step.bits &&& step.whom
  let kept := if isFolder then 0o6000 &&& (0o7777 ^^^ named) else 0
  let value := meant &&& (if step.whom = 0 then 0o7777 ^^^ mask else step.whom) &&&
    (0o7777 ^^^ kept)
  match step.operator with
  | .add => bits ||| value
  | .remove => bits &&& (0o7777 ^^^ value)
  | .set =>
    (bits &&& ((if step.whom = 0 then 0 else 0o7777 ^^^ step.whom) ||| kept)) ||| value

/-- The bits after a change. The mask holds for what is said of no one. -/
def Change.apply (mask : Nat) (isFolder : Bool) (bits : Nat) : Change → Nat
  | .digits given isComplete =>
    if isFolder && !isComplete then given ||| (bits &&& 0o6000) else given
  | .stages steps => steps.foldl (fun bits step => step.apply mask isFolder bits) bits

/-- The letters of three permission bits, with the letters for a mark on top of them. -/
def triple (bits : Nat) (marked : Bool) (both only : Char) : List Char :=
  let run := if marked then (if bits &&& 1 ≠ 0 then both else only)
    else if bits &&& 1 ≠ 0 then 'x' else '-'
  [if bits &&& 4 ≠ 0 then 'r' else '-', if bits &&& 2 ≠ 0 then 'w' else '-', run]

/-- Permission bits as letters. -/
def letters (bits : Nat) : String :=
  String.ofList (triple (bits >>> 6) (bits &&& 0o4000 ≠ 0) 's' 'S' ++
    triple (bits >>> 3) (bits &&& 0o2000 ≠ 0) 's' 'S' ++
    triple bits (bits &&& 0o1000 ≠ 0) 't' 'T')

/-- Permission bits as octal digits. -/
def digits (bits : Nat) : String :=
  String.ofList (Nat.toDigits 8 bits)

end RemoteAttach.Tool.Mode
