import RemoteAttach.Tool.Basic

/-! The program that replaces, deletes and squeezes characters. Its sets are written with ranges,
classes and repeats. -/

namespace RemoteAttach.Tool.Translate

open Shell Act

/-- An element of a set. -/
inductive Element where
  | chars (all : List Char)
  | charClass (name : String)
  /-- A character that is repeated, as often as is needed if there is no count. -/
  | repeated (c : Char) (count : Option Nat)

/-- A character, and whether a backslash stands before it. -/
abbrev Mark := Char × Bool

/-- The characters of a set with its escapes read. -/
def marks : Nat → List Char → List Mark
  | _, [] => []
  | skip + 1, _ :: rest => marks skip rest
  | 0, '\\' :: rest =>
    let digits := (rest.take 3).takeWhile fun c => '0' ≤ c && c ≤ '7'
    match rest, digits with
    | [], _ => [('\\', false)]
    | _, _ :: _ =>
      let digits := if 255 < Format.valueOf 8 digits then digits.take 2 else digits
      (Char.ofNat (Format.valueOf 8 digits), true) :: marks digits.length rest
    | c :: _, [] =>
      let value := match c with
        | 'a' => '\x07'
        | 'b' => '\x08'
        | 'f' => '\x0c'
        | 'n' => '\n'
        | 'r' => '\r'
        | 't' => '\t'
        | 'v' => '\x0b'
        | c => c
      (value, true) :: marks 1 rest
  | 0, c :: rest => (c, false) :: marks 0 rest

/-- The characters of a class. -/
def classOf? (name : String) : Option (List Char) :=
  let all := (List.range 256).map Char.ofNat
  let graph := fun (c : Char) => '!' ≤ c && c ≤ '~'
  let test : Option (Char → Bool) := match name with
    | "alnum" => some Char.isAlphanum
    | "alpha" => some Char.isAlpha
    | "blank" => some fun c => c = ' ' || c = '\t'
    | "cntrl" => some fun c => c < ' ' || c = '\x7f'
    | "digit" => some Char.isDigit
    | "graph" => some graph
    | "lower" => some Char.isLower
    | "print" => some isPrintable
    | "punct" => some fun c => graph c && !c.isAlphanum
    | "space" => some fun c => c = ' ' || ('\t' ≤ c && c ≤ '\x0d')
    | "upper" => some Char.isUpper
    | "xdigit" => some fun c => c.isDigit || ('a' ≤ c && c ≤ 'f') || ('A' ≤ c && c ≤ 'F')
    | _ => none
  test.map fun test => all.filter test

/-- The part of a set between brackets after a mark, such as a class, and what follows it. -/
def bracketed (mark : Char) (text : List Mark) : Option (List Mark × List Mark) :=
  let rec go (done : List Mark) : List Mark → Option (List Mark × List Mark)
    | (c, false) :: (']', false) :: rest =>
      if c = mark then some (done.reverse, rest) else go ((c, false) :: done) ((']', false) :: rest)
    | m :: rest => go (m :: done) rest
    | [] => none
  go [] text

/-- The repeat at the start of a text, after its bracket. -/
def repeat? : List Mark → Option (Element × List Mark)
  | (c, _) :: ('*', false) :: rest =>
    let digits := (rest.takeWhile fun (d, escaped) => d.isDigit && !escaped).map (·.1)
    match rest.drop digits.length with
    | (']', false) :: after =>
      let base := if digits.head? = some '0' then 8 else 10
      let count := if digits.isEmpty then none else Text.digitsAfter base 0 digits
      some (.repeated c (if count = some 0 then none else count), after)
    | _ => none
  | _ => none

/-- The escapes in a range as they are written in a complaint. -/
def written (m : Mark) : String :=
  if m.1 = '\\' then "\\\\" else m.1.toString

/-- The elements of a set, or a complaint about it. -/
def elements : Nat → List Mark → Except String (List Element)
  | 0, _ => .ok []
  | _, [] => .ok []
  | fuel + 1, ('[', false) :: rest => do
    let plain := fun (_ : Unit) => do
      let others ← elements fuel rest
      .ok (.chars ['['] :: others)
    match rest with
    | (':', false) :: more =>
      match bracketed ':' more with
      | some (name, after) =>
        let name := String.ofList (name.map (·.1))
        match classOf? name with
        | some _ =>
          let others ← elements fuel after
          .ok (.charClass name :: others)
        | none => .error ("invalid character class " ++ cited name)
      | none => plain ()
    | ('=', false) :: more =>
      match bracketed '=' more with
      | some ([(c, _)], after) =>
        let others ← elements fuel after
        .ok (.chars [c] :: others)
      | some (text, _) =>
        .error (String.ofList (text.map (·.1)) ++
          ": equivalence class operand must be a single character")
      | none => plain ()
    | _ =>
      match repeat? rest with
      | some (element, after) =>
        let others ← elements fuel after
        .ok (element :: others)
      | none =>
        match rest with
        | ('-', false) :: (b, _) :: after =>
          if b < '[' then
            .error ("range-endpoints of '[-" ++ b.toString ++
              "' are in reverse collating sequence order")
          else
            let others ← elements fuel after
            .ok (.chars ((List.range (b.toNat + 1 - 91)).map fun n => Char.ofNat (91 + n)) ::
              others)
        | _ => plain ()
  | fuel + 1, (a, escaped) :: ('-', false) :: (b, escaped') :: rest =>
    if b < a then
      .error ("range-endpoints of '" ++ written (a, escaped) ++ "-" ++ written (b, escaped') ++
        "' are in reverse collating sequence order")
    else do
      let others ← elements fuel rest
      .ok (.chars ((List.range (b.toNat + 1 - a.toNat)).map fun n => Char.ofNat (a.toNat + n)) ::
        others)
  | fuel + 1, (c, _) :: rest => do
    let others ← elements fuel rest
    .ok (.chars [c] :: others)

/-- The elements of a set that is written as a text. -/
def read (text : String) : Except String (List Element) :=
  elements (text.length + 1) (marks 0 text.toList)

/-- The characters of a set, in which a repeat without a count fills up to a length. -/
def chars (length : Nat) (all : List Element) : List Char :=
  let sizes := all.map fun e => match e with
    | .chars cs => cs.length
    | .charClass name => ((classOf? name).getD []).length
    | .repeated _ count => count.getD 0
  let missing := length - sizes.foldl (· + ·) 0
  all.flatMap fun e => match e with
    | .chars cs => cs
    | .charClass name => (classOf? name).getD []
    | .repeated c count => List.replicate (count.getD missing) c

/-- The set holds a class that has no other letter case. -/
def hasOtherClass (all : List Element) : Bool :=
  all.any fun e => match e with
    | .charClass name => name ≠ "lower" && name ≠ "upper"
    | _ => false

/-- Adds a text to what has been written, the last character first, with each run of one character
that `squeezes` wants made a single one. -/
def squeezed (squeezes : Char → Bool) : List Char → List Char → List Char
  | done, [] => done.reverse
  | done, c :: rest =>
    if done.head? = some c && squeezes c then squeezed squeezes done rest
    else squeezed squeezes (c :: done) rest

/-- A table with a value for each character. -/
def tableOf (value : Char → Char) : Array Char :=
  ((List.range 256).map fun n => value (Char.ofNat n)).toArray

/-- The operands are not as many as there have to be. -/
def checkCount (deletes squeezes : Bool) (operands : List String) : Act Unit := do
  let least := if deletes = squeezes then 2 else 1
  let most := if deletes && !squeezes then 1 else 2
  if operands.length < least then
    match operands.getLast? with
    | none => misuse "missing operand"
    | some last =>
      misuse ("missing operand after " ++ cited last ++ "\n" ++
        (if squeezes then "Two strings must be given when both deleting and squeezing repeats."
          else "Two strings must be given when translating."))
  else if most < operands.length then
    let extra := operands.getD most ""
    misuse ("extra operand " ++ cited extra ++
      (if operands.length = 2 then
        "\nOnly one string may be given when deleting without squeezing repeats." else ""))

/-- Replaces, deletes or squeezes characters of the input. -/
def run (args : List String) : Act Unit := do
  let f ← options {
    letters := "cCdst"
    names := [("complement", 'c', .nothing), ("delete", 'd', .nothing),
      ("squeeze-repeats", 's', .nothing), ("truncate-set1", 't', .nothing)]
    stops := true } args
  let deletes := f.has 'd'
  let squeezes := f.has 's'
  let complement := f.has 'c' || f.has 'C'
  checkCount deletes squeezes f.operands
  let set := fun (text : String) => do
    match read text with
    | .ok all => pure all
    | .error text => fail text
  let first ← set (f.operands.headD "")
  let second ← match f.operands with
    | _ :: text :: _ => do pure (some (← set text))
    | _ => pure none
  let plain := chars 0 first
  let first := if complement then
      ((List.range 256).map Char.ofNat).filter fun c => !plain.contains c
    else plain
  let replaces := !deletes && second.isSome
  let raw := second.getD []
  if replaces && hasOtherClass raw then
    fail ("when translating, the only character classes that may appear in\n" ++
      "string2 are 'upper' and 'lower'")
  let second := chars first.length raw
  if replaces && second.isEmpty && !f.has 't' then
    fail "when not truncating set1, string2 must be non-empty"
  needInput "read error"
  let text ← readAll 0
  let inFirst := tableOf fun c => if first.contains c then '1' else '0'
  let isFirst := fun (c : Char) => inFirst.getD c.toNat '0' = '1'
  let changed :=
    if deletes then text.filter fun c => !isFirst c
    else if replaces then
      let targets := if f.has 't' then second
        else second ++ List.replicate (first.length - second.length) (second.getLastD ' ')
      let table := (first.zip targets).foldl (fun (table : Array Char) (a, b) =>
        table.set! a.toNat b) (tableOf id)
      text.map fun c => table.getD c.toNat c
    else text
  let isSqueezed := if deletes || replaces then second.contains else isFirst
  write (if squeezes then squeezed isSqueezed [] changed else changed)

end RemoteAttach.Tool.Translate
