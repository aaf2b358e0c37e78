/-! The order of texts that hold versions: runs of digits are compared as numbers, and all else
character by character. -/

namespace RemoteAttach.Tool.Version

/-- The weight of a character between numbers, where the end of a text counts as nothing. -/
def weight : Option Char → Int
  | none => 0
  | some c =>
    if c.isDigit then 0
    else if c.isAlpha then c.toNat
    else if c = '~' then -1
    else c.toNat + 256

/-- The order of two numbers in digits. -/
def compareDigits (a b : List Char) : Ordering :=
  let a := a.dropWhile (· = '0')
  let b := b.dropWhile (· = '0')
  (compare a.length b.length).then (compare (String.ofList a) (String.ofList b))

/-- The order of two texts, through as many steps as they have characters. -/
def compareFrom : Nat → List Char → List Char → Ordering
  | 0, _, _ => .eq
  | fuel + 1, a, b =>
    let isText := fun (c : Option Char) => c.any fun c => !c.isDigit
    if a.isEmpty && b.isEmpty then .eq
    else if isText a.head? || isText b.head? then
      match compare (weight a.head?) (weight b.head?) with
      | .eq => compareFrom fuel (a.drop 1) (b.drop 1)
      | order => order
    else
      let x := a.takeWhile Char.isDigit
      let y := b.takeWhile Char.isDigit
      (compareDigits x y).then (compareFrom fuel (a.drop x.length) (b.drop y.length))

/-- The order of two texts. -/
def compareTexts (a b : List Char) : Ordering :=
  compareFrom (a.length + b.length + 1) a b

/-- The ending of a name: points, each with letters and digits behind it. -/
def endingLength (name : List Char) : Nat :=
  go name.reverse 0 0
where
  /-- Looks through a name from behind, with the length of what has been passed since the last
  point, and of the ending so far. -/
  go : List Char → Nat → Nat → Nat
    | [], _, ending => ending
    | '.' :: rest, passed, ending =>
      if passed = 0 || rest.isEmpty then ending else go rest 0 (ending + passed + 1)
    | c :: rest, passed, ending =>
      let beginsPart := rest.head? = some '.'
      if beginsPart && !(c.isAlpha || c = '~') then ending
      else if c.isAlphanum || c = '~' then go rest (passed + 1) ending
      else ending

/-- The order of two names of files. -/
def compareNames (a b : List Char) : Ordering :=
  let short := fun (name : List Char) => name.take (name.length - endingLength name)
  if a = b then .eq
  else if a.isEmpty then .lt
  else if b.isEmpty then .gt
  else
    match a.head? == some '.', b.head? == some '.' with
    | true, false => .lt
    | false, true => .gt
    | _, _ => (compareTexts (short a) (short b)).then (compareTexts a b)

end RemoteAttach.Tool.Version
