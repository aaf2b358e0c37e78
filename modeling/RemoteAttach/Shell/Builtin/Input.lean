import RemoteAttach.Shell.Builtin.Options
import RemoteAttach.Text.Lines

/-! The commands of a shell that read: lines of the input into variables, and options from
arguments. -/

namespace RemoteAttach.Shell.Builtin

open Act

/-- How a line is read. -/
structure LineForm where
  /-- Backslashes are characters like others. -/
  raw : Bool := false
  delimiter : Char := '\n'
  /-- The most characters that are read. -/
  most : Option Nat := none
  /-- The delimiter is a character like others. -/
  exact : Bool := false

/-- The line at the start of a text: its characters, those that backslashes protect being quoted,
the number of characters that it takes up, and whether it has an end. -/
def lineFrom (form : LineForm) : List Glyph → Nat → Bool → List Char → List Glyph × Nat × Bool
  | done, count, _, [] => (done.reverse, count, false)
  | done, count, escaped, c :: rest =>
    if form.most.any (done.length ≥ ·) && !escaped then (done.reverse, count, true)
    else if escaped then
      if c = '\n' then lineFrom form done (count + 1) false rest
      else lineFrom form (⟨c, true⟩ :: done) (count + 1) false rest
    else if c = form.delimiter && !form.exact then (done.reverse, count + 1, true)
    else if c = '\\' && !form.raw then lineFrom form done (count + 1) true rest
    else if c = '\x00' then lineFrom form done (count + 1) false rest
    else lineFrom form (⟨c, false⟩ :: done) (count + 1) false rest

/-- Reads a line of the input into variables. -/
def read (args : List String) : Act Unit := do
  let s ← get
  let (found, names) ← options "read"
    (if s.dialect = .dash then "p:r" else "ersa:d:i:n:N:p:t:u:") args
  let value := fun (c : Char) => found.lookup c
  if s.dialect = .dash && names.isEmpty then refuse "read" "arg count"
  match names.find? (fun name => !isName ((Text.cutAt '[' name.toList).elim name fun (name, _) =>
      String.ofList name)) with
  | some name =>
    match s.dialect with
    | .dash => refuse "read" (name ++ ": bad variable name")
    | .bash => refuse "read" ("`" ++ name ++ "': not a valid identifier") 1
  | none => pure ()
  let stream := ((value 'u').bind String.toNat?).getD 0
  let form : LineForm := {
    raw := has found 'r'
    delimiter := match value 'd' with
      | some text => text.toList.headD '\x00'
      | none => '\n'
    most := ((value 'N').or (value 'n')).bind String.toNat?
    exact := has found 'N' }
  match s.rest? stream with
  | none =>
    match s.dialect with
    | .dash => finish 1
    | .bash =>
      if has found 'u' then
        report "read" (toString stream ++ ": invalid file descriptor: Bad file descriptor")
      else report "read" "read error: 0: Bad file descriptor"
      finish 1
  | some text =>
    let (line, count, ended) := lineFrom form [] 0 false text
    modify fun s => s.advance stream count
    match value 'a' with
    | some name =>
      let atoms := line.map fun g => if g.quoted then Atom.fixed g else Atom.loose g.char
      let fields := (Field.cut s.separators atoms).map Glyph.text
      assignList name false (fields.map fun text => (none, text))
    | none =>
      if names.isEmpty then assign "REPLY" (Glyph.text line)
      else if form.exact then
        forAll (names.zip (List.range names.length)) fun (name, n) =>
          assign name (if n = 0 then Glyph.text line else "")
      else
        forAll (Field.values s.separators names line) fun (name, value) =>
          match Text.cutAt '[' name.toList with
          | some (list, key) =>
            assignItem (String.ofList list) (String.ofList (key.takeWhile (· ≠ ']'))) value false
          | none => assign name value
    finish (if ended || form.most.any (line.length ≥ ·) then 0 else 1)

/-- Reads the lines of the input into a list. -/
def mapfile (name : String) (args : List String) : Act Unit := do
  let (found, args) ← options name "d:n:O:s:tu:C:c:" args
  let number := fun (c : Char) => (found.lookup c).bind String.toNat?
  let target := args.headD "MAPFILE"
  if !isName target then refuse name ("`" ++ target ++ "': not a valid identifier") 1
  let delimiter := match found.lookup 'd' with
    | some text => text.toList.headD '\x00'
    | none => '\n'
  let text ← readAll ((number 'u').getD 0)
  let (ended, last) := Text.linesOf delimiter text
  let kept := if has found 't' then ended else ended.map (· ++ [delimiter])
  let lines := (kept ++ (if last.isEmpty then [] else [last])).drop ((number 's').getD 0)
  let lines := match number 'n' with
    | some n => if n = 0 then lines else lines.take n
    | none => lines
  let origin := (number 'O').getD 0
  let items := lines.map fun line => (none, String.ofList (line.filter (· ≠ '\x00')))
  match items, origin with
  | (_, first) :: rest, _ + 1 =>
    assignList target true ((some (toString origin), first) :: rest)
  | items, _ => assignList target false items
  finish 0

/-- What reading an option gives. -/
structure OptionFound where
  /-- The letter, a question mark for one that is not known, or a colon for a missing value. -/
  letter : Char
  /-- The value of the option, or the letter that is complained of. -/
  value : Option String := none
  complaint : Option String := none
  index : Nat
  place : Nat := 0
  /-- No option is left. -/
  ended : Bool := false

/-- An option takes a value, if it is known. -/
def takesValue (known : List Char) (c : Char) : Option Bool :=
  match known with
  | [] => none
  | a :: rest =>
    if a = c && a ≠ ':' then some (rest.head? = some ':') else takesValue rest c

/-- Reads the next option from some arguments, of which `index` is the next one and `place` tells
how many characters of the one before have been read. -/
def nextOption (dialect : Dialect) (known : List Char) (args : Array String)
    (index place : Nat) : OptionFound :=
  let quiet := known.head? = some ':'
  let current := match dialect with
    | .dash => if index ≤ 1 then [] else (args[index - 2]?.getD "").toList
    | .bash => (args[index - 1]?.getD "").toList
  let going := 0 < place && place < current.length
  let next := (args[index - 1]?.getD "").toList
  if !going && (next.head? ≠ some '-' || next.length = 1 || args.size < index) then
    { letter := '?', index, ended := true }
  else if !going && next = ['-', '-'] then { letter := '?', index := index + 1, ended := true }
  else
    let (word, place, index) := match dialect with
      | .dash => if going then (current, place, index) else (next, 1, index + 1)
      | .bash => if going then (current, place, index) else (next, 1, index)
    let c := word.getD place '?'
    let more := word.drop (place + 1)
    /- The smaller shell counts the argument when it begins, the larger one when it ends. -/
    let after := match dialect with
      | .dash => index
      | .bash => if more.isEmpty then index + 1 else index
    let rest := if more.isEmpty then 0 else place + 1
    match takesValue known c with
    | none =>
      let complaint := match dialect with
        | .dash => "Illegal option -" ++ c.toString
        | .bash => "illegal option -- " ++ c.toString
      { letter := '?', value := if quiet then some c.toString else none
        complaint := if quiet then none else some complaint, index := after, place := rest }
    | some false =>
      { letter := c, value := if dialect = .dash then some "" else none
        index := after, place := rest }
    | some true =>
      let whole := match dialect with
        | .dash => index
        | .bash => index + 1
      if !more.isEmpty then
        { letter := c, value := some (String.ofList more), index := whole }
      else
        match args[whole - 1]? with
        | some value => { letter := c, value := some value, index := whole + 1 }
        | none =>
          let complaint := match dialect with
            | .dash => "No arg for -" ++ c.toString ++ " option"
            | .bash => "option requires an argument -- " ++ c.toString
          { letter := if quiet then ':' else '?'
            value := if quiet then some c.toString else none
            complaint := if quiet then none else some complaint, index := whole }

/-- Reads the next option from the arguments of the shell, or from those that are given. -/
def getopts (args : List String) : Act Unit := do
  let s ← get
  let args ← if s.dialect = .bash then do
      let (_, args) ← options "getopts" "" args
      pure args
    else pure args
  match args with
  | known :: name :: given =>
    if s.dialect = .dash && !isName name then refuse "getopts" (name ++ ": bad variable name")
    let all := if given.isEmpty then s.args else given
    let found := nextOption s.dialect known.toList all.toArray s.optionIndex s.optionPlace
    match found.complaint with
    | some text =>
      match s.dialect with
      | .dash => warn (text ++ "\n")
      | .bash => if s.text? "OPTERR" ≠ some "0" then warn (s.name ++ ": " ++ text ++ "\n")
    | none => pure ()
    match found.value with
    | some value => assign "OPTARG" value
    | none =>
      if !(found.ended && s.dialect = .dash) then modify fun s => s.unset "OPTARG"
    modify fun s => { s.set "OPTIND" (toString found.index) with
      optionIndex := found.index, optionPlace := found.place }
    if !isName name then refuse "getopts" ("`" ++ name ++ "': not a valid identifier") 1
    assign name found.letter.toString
    finish (if found.ended then 1 else 0)
  | _ =>
    match s.dialect with
    | .dash => refuse "getopts" "Usage: getopts optstring var [arg...]"
    | .bash => refuseUsage "getopts"

end RemoteAttach.Shell.Builtin
