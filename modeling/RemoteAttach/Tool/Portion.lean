import RemoteAttach.Tool.Lines

/-! Programs that write the start of files, or their end. How much they write is counted in lines or
in characters, from one end of a file or up to the other end. -/

namespace RemoteAttach.Tool

open Shell Act

/-- How much of a file is taken. -/
structure Portion where
  ofLines : Bool := true
  count : Nat := 10
  /-- The count is about the other end of the file. -/
  turned : Bool := false
  mark : Char := '\n'

/-- The number of characters up to the end of some lines. -/
def lengthOfLines (mark : Char) : Nat → Nat → List Char → Nat
  | _, done, [] => done
  | 0, done, _ => done
  | lines + 1, done, c :: rest =>
    if c = mark then lengthOfLines mark lines (done + 1) rest
    else lengthOfLines mark (lines + 1) (done + 1) rest

/-- The number of characters at the start of a text that make a portion. -/
def Portion.fromStart (p : Portion) (text : List Char) : Nat :=
  if !p.turned then
    if p.ofLines then lengthOfLines p.mark p.count 0 text else min p.count text.length
  else if p.ofLines then
    let lines := markedLines p.mark text
    ((lines.take (lines.length - p.count)).map List.length).foldl (· + ·) 0
  else text.length - p.count

/-- The part of a text at its end that makes a portion. -/
def Portion.fromEnd (p : Portion) (text : List Char) : List Char :=
  if p.turned then
    if p.ofLines then text.drop (lengthOfLines p.mark (p.count - 1) 0 text)
    else text.drop (p.count - 1)
  else if p.ofLines then
    let lines := markedLines p.mark text
    (lines.drop (lines.length - p.count)).flatten
  else text.drop (text.length - p.count)

/-- The options that a first argument of a hyphen, digits and letters stands for. -/
def startOptions? (text : String) : Option (Except String (List String)) :=
  match text.toList with
  | '-' :: c :: rest =>
    if !c.isDigit then none
    else
      let digits := (c :: rest).takeWhile Char.isDigit
      let letters := (c :: rest).drop digits.length
      match letters.find? fun c => !"bckmlqvz".toList.contains c with
      | some c => some (.error ("invalid trailing option -- " ++ c.toString))
      | none =>
        let kind := (letters.filter "bckml".toList.contains).getLast?.getD 'l'
        let unit := if "bkm".toList.contains kind then [kind] else []
        let others := letters.filter "qvz".toList.contains
        some (.ok ((if kind = 'l' then "-n" else "-c") :: String.ofList (digits ++ unit) ::
          others.map fun c => "-" ++ c.toString))
  | _ => none

/-- The options that a first argument of a sign, digits and letters stands for. -/
def endOptions? (text : String) : Option (List String) :=
  let options := fun (plus : Bool) (rest : List Char) =>
    let digits := rest.takeWhile Char.isDigit
    let (kind, others) := match rest.drop digits.length with
      | 'b' :: others => ('b', others)
      | 'c' :: others => ('c', others)
      | 'l' :: others => ('l', others)
      | others => ('l', others)
    let number := if digits.isEmpty then ['1', '0'] else digits
    let unit := if kind = 'b' then ['b'] else []
    let value := String.ofList ((if plus then ['+'] else []) ++ number ++ unit)
    let portion := [if kind = 'l' then "-n" else "-c", value]
    match others with
    | [] => some portion
    | ['f'] => some (portion ++ ["-f"])
    | _ => none
  match text.toList with
  | '+' :: rest => options true rest
  | '-' :: rest =>
    if rest.isEmpty || rest = ['c'] then none else options false rest
  | _ => none

/-- Arguments of the program that writes ends, with an old form of the first one replaced. That is
known only if there is at most one operand. -/
def withEndOptions (args : List String) : List String :=
  let isAlone := match args with
    | [_] => true
    | [_, second] => !(second.startsWith "-" && 1 < second.length)
    | [_, second, _] => second = "--"
    | _ => false
  match args with
  | first :: rest => if isAlone then (endOptions? first).elim args (· ++ rest) else args
  | [] => []

/-- The names of the options of programs that take a portion of a file. -/
def portionNames : List (String × Char × Takes) :=
  [("bytes", 'c', .value), ("lines", 'n', .value), ("quiet", 'q', .nothing),
    ("silent", 'q', .nothing), ("verbose", 'v', .nothing), ("zero-terminated", 'z', .nothing)]

/-- The portion that an option changes another one to. The value of a count has a sign if it is
about the other end of the file. -/
def Portion.take (sign : Char) (p : Portion) (option : Char × String) : Act Portion := do
  let (letter, text) := option
  if letter = 'z' then pure { p with mark := '\x00' }
  else if letter = 'n' || letter = 'c' then
    let ofLines := letter = 'n'
    let turned := text.toList.head? = some sign
    let digits := if text.startsWith "-" then (text.drop 1).toString else text
    let words := "invalid number of " ++ (if ofLines then "lines" else "bytes")
    let count ← sizeOr words digits
    pure { p with ofLines, turned, count }
  else pure p

/-- The title of a file among several. -/
def title (first : Bool) (operand : String) : String :=
  (if first then "" else "\n") ++ "==> " ++
    (if operand = "-" then "standard input" else operand) ++ " <==\n"

/-- Takes portions of files. `take` is given what writes the title of an operand, and tells whether
it has called that. -/
def portions (f : Found) (take : Act Unit → String → Act Bool) : Act Unit := do
  let operands := orInput f.operands
  let titled := f.last? ['q', 'v'] = some 'v' || (1 < operands.length && !f.has 'q')
  let _ ← operands.foldlM (fun (first : Bool) operand => do
    let opened ← take (if titled then writeText (title first operand) else pure ()) operand
    pure (first && !opened)) true

/-- Complains about a file that a portion is to be taken of. -/
def deplorePortion (operand : String) (e : FileError) : Act Unit :=
  match e with
  | .isDirectory => deplore ("error reading " ++ inQuotes operand ++ ": " ++ e.reason)
  | _ => deplore ("cannot open " ++ inQuotes operand ++ " for reading: " ++ e.reason)

/-- The number of characters that are read at once. -/
def blockSize : Nat := 8192

/-- Writes the start of the input, of which no more is taken away than has to be. -/
def headOfInput (p : Portion) : Act Unit := do
  let s ← get
  match s.channel? 0 with
  | none =>
    let start := if p.turned then "cannot fstat" else "error reading"
    deplore (start ++ " 'standard input': Bad file descriptor")
  | some (_, .folder) => deplorePortion "standard input" .isDirectory
  | some (_, channel) =>
    let text := channel.rest s.files
    let size := p.fromStart text
    let exact := channel.winds || (!p.ofLines && !p.turned)
    let used := if exact && !p.turned then size
      else if p.turned then text.length
      else min text.length ((size + blockSize - 1) / blockSize * blockSize)
    modify fun s => s.advance 0 used
    write (text.take size)

/-- Writes the start of files. -/
def head (args : List String) : Act Unit := do
  let args ← match args with
    | [] => pure []
    | first :: rest =>
      match startOptions? first with
      | none => pure args
      | some (.ok options) => pure (options ++ rest)
      | some (.error words) => misuse words
  let (f, fault) ← optionsSoFar { letters := "0123456789c:n:qvz", names := portionNames } args
  let p ← f.options.foldlM (fun (p : Portion) option => do
    if option.1.isDigit then misuse ("invalid trailing option -- " ++ option.1.toString)
    p.take '-' option) {}
  if let some text := fault then misuse text
  let isNothing := p.count = 0 && !p.turned
  portions f fun title operand => do
    if operand = "-" then
      title
      headOfInput p
      pure true
    else
      match ← content operand with
      | .error .isDirectory =>
        title
        if !isNothing then deplorePortion operand .isDirectory
        pure true
      | .error e =>
        deplorePortion operand e
        pure false
      | .ok text =>
        title
        write (text.take (p.fromStart text))
        pure true
  closeInput "-" (orInput f.operands)

/-- Writes the end of files. -/
def tail (args : List String) : Act Unit := do
  let (f, fault) ← optionsSoFar {
    letters := "0123456789c:n:qvzfFs:"
    names := portionNames ++ [("follow", 'f', .perhaps), ("pid", 'P', .value),
      ("retry", 'r', .nothing), ("sleep-interval", 's', .value)] } (withEndOptions args)
  let p ← f.options.foldlM (fun (p : Portion) option => do
    if option.1.isDigit then
      fail ("option used in invalid context -- " ++ option.1.toString)
    p.take '+' option) {}
  if let some text := fault then misuse text
  if f.has 'r' then
    complain "warning: --retry ignored; --retry is useful only when following"
  if f.has 'P' then
    complain "warning: PID ignored; --pid=PID is useful only when following"
  if p.count = 0 && !p.turned then throw .exit
  portions f fun title operand => do
    match ← content operand with
    | .error .isDirectory =>
      title
      deplorePortion operand .isDirectory
      pure true
    | .error .notOpen =>
      title
      deplore "cannot fstat 'standard input': Bad file descriptor"
      pure true
    | .error e =>
      deplorePortion operand e
      pure false
    | .ok text =>
      title
      write (p.fromEnd text)
      pure true
  closeInput "-" (orInput f.operands)

end RemoteAttach.Tool
