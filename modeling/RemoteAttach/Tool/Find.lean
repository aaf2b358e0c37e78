import RemoteAttach.Text.Regex.Reader
import RemoteAttach.Tool.Child
import RemoteAttach.Tool.Copy
import RemoteAttach.Tool.Facts

/-! Searching a tree of files: each file that is visited is put to an expression, whose parts are
tests and actions joined by operators. -/

namespace RemoteAttach.Tool.Find

open Shell Act

/-- A file that is visited. -/
structure Visit where
  text : String
  facts : FileFacts
  depth : Nat
  /-- The text where the search began. -/
  start : String

/-- An expression. -/
inductive Expr where
  | holds (test : State → Visit → Bool)
  /-- Does something, and holds as that tells. -/
  | act (action : Visit → Act Bool)
  /-- What is in the folder is not visited. -/
  | prune
  /-- Nothing more is visited. -/
  | quit
  /-- The file is kept for the command of a number. -/
  | keep (command : Nat)
  | negated (inner : Expr)
  | both (first second : Expr)
  | either (first second : Expr)
  | sequence (first second : Expr)

/-- What a search keeps while it goes on. -/
structure Search where
  pruned : Bool := false
  ended : Bool := false
  /-- The files that are kept for commands, by the numbers of those, the last one first. -/
  kept : List (Nat × String) := []

namespace Expr

/-- Puts a file to an expression. -/
def run (v : Visit) : Expr → Search → Act (Bool × Search)
  | holds test, st => do pure (test (← get) v, st)
  | act action, st => do pure (← action v, st)
  | prune, st => pure (true, { st with pruned := true })
  | quit, st => pure (true, { st with ended := true })
  | keep n, st => pure (true, { st with kept := (n, v.text) :: st.kept })
  | negated inner, st => do
    let (value, st) ← run v inner st
    pure (!value, st)
  | both first second, st => do
    let (value, st) ← run v first st
    if value && !st.ended then run v second st else pure (value, st)
  | either first second, st => do
    let (value, st) ← run v first st
    if value || st.ended then pure (value, st) else run v second st
  | sequence first second, st => do
    let (_, st) ← run v first st
    if st.ended then pure (true, st) else run v second st

end Expr

/-- The form of regular expressions if nothing is said of it. -/
def usualForm : Regex.Form := { bareRepeats := true, counts := false, emptyRanges := true }

/-- The forms of regular expressions by their names. -/
def regexForms : List (String × Regex.Form) :=
  let posix : Regex.Form := { extended := true, strict := true }
  let words : Regex.Form := { extended := true, strict := true, paired := true, escapes := true }
  [("findutils-default", usualForm), ("ed", {}), ("emacs", { usualForm with pointInLine := true }),
    ("gnu-awk", { words with counts := false }), ("grep", {}), ("posix-awk", words),
    ("awk", { words with counts := false }), ("posix-basic", {}),
    ("posix-egrep", { extended := true }), ("egrep", { extended := true }),
    ("posix-extended", posix), ("posix-minimal-basic", {}), ("sed", {})]

/-- How a search is done. -/
structure Form where
  least : Nat := 0
  most : Option Nat := none
  depthFirst : Bool := false
  follows : Bool := false
  followsStarts : Bool := false
  /-- Some part of the expression is an action. -/
  acts : Bool := false
  prunes : Bool := false
  deletes : Bool := false
  /-- The form of regular expressions. -/
  regexes : Regex.Form := usualForm
  /-- The commands that are given many files, with the arguments that stand before those. -/
  commands : List (List String) := []

/-- What is left of the expression, and what it has said of the search. -/
structure Unread where
  rest : List String
  form : Form

/-- Reading an expression, which may be refused. -/
abbrev Reading (α : Type) := StateT Unread (Except String) α

/-- A pattern of names, in which a backslash protects the next character. -/
def glyphs : List Char → List Glyph
  | '\\' :: c :: rest => ⟨c, true⟩ :: glyphs rest
  | c :: rest => ⟨c, false⟩ :: glyphs rest
  | [] => []

/-- A text fits a pattern, perhaps in any letter case. -/
def fits (folds : Bool) (pattern text : String) : Bool :=
  let lower := fun (s : String) => if folds then s.toLower else s
  (Pattern.ofGlyphs {} (glyphs (lower pattern).toList)).matches? (lower text).toList

/-- Refuses an expression. -/
def refuse {α : Type} (text : String) : Reading α :=
  throw text

/-- The next word of the expression, if there is one. -/
def peek : Reading (Option String) := do
  pure (← get).rest.head?

/-- Passes over a word. -/
def skip : Reading Unit :=
  modify fun u => { u with rest := u.rest.drop 1 }

/-- The argument of a part of the expression. -/
def argument (name : String) : Reading String := do
  match (← get).rest with
  | [] => refuse ("missing argument to \x60" ++ name ++ "'")
  | word :: rest =>
    modify fun u => { u with rest }
    pure word

/-- A number that is compared: more than it, less than it, or the same. -/
def comparison? (text : String) : Option (Char × Nat) :=
  match text.toList with
  | sign :: digits =>
    let (sign, digits) := if sign = '+' || sign = '-' then (sign, digits) else ('=', sign :: digits)
    if digits.isEmpty then none else (Text.digitsAfter 10 0 digits).map fun n => (sign, n)
  | [] => none

/-- A number compares to another as a sign says. -/
def compares (sign : Char) (n value : Int) : Bool :=
  match sign with
  | '+' => n < value
  | '-' => value < n
  | _ => value = n

/-- The test of a size. -/
def sizeTest (text : String) : Reading Expr := do
  let units := [('c', 1), ('w', 2), ('b', 512), ('k', 1024), ('M', 1048576), ('G', 1073741824)]
  let (digits, unit) := match text.toList.getLast?.bind fun c => units.lookup c with
    | some unit => (String.ofList text.toList.dropLast, unit)
    | none => (text, 512)
  match comparison? digits with
  | some (sign, n) =>
    pure (.holds fun _ v => compares sign n ((v.facts.size + unit - 1) / unit : Nat))
  | none =>
    let last := text.toList.getLast?.getD ' '
    if last.isDigit || (units.lookup last).isSome then
      refuse ("Invalid argument \x60" ++ text ++ "' to -size")
    else refuse ("invalid -size type \x60" ++ last.toString ++ "'")

/-- The test of permission bits. -/
def modeTest (text : String) : Reading Expr := do
  let (sign, rest) := match text.toList with
    | '-' :: rest => ('-', String.ofList rest)
    | '/' :: rest => ('/', String.ofList rest)
    | _ => ('=', text)
  match Mode.read? rest with
  | none => refuse ("invalid mode " ++ inQuotes text)
  | some change =>
    let bits := change.apply 0 false 0
    pure (.holds fun _ v =>
      match sign with
      | '-' => v.facts.mode &&& bits = bits
      | '/' => bits = 0 || v.facts.mode &&& bits ≠ 0
      | _ => v.facts.mode = bits)

/-- The letter of a kind of file in an expression. -/
def kindLetter (kind : FileKind) : Char :=
  if kind = .regular then 'f' else Tool.kindLetter kind

/-- The test of a kind, as it is or as it is found through a link. -/
def kindTest (name text : String) (through : Bool) : Reading Expr := do
  let parts := (Text.pieces [','] text.toList)
  if parts.any fun part => 1 < part.length then
    refuse ("Must separate multiple arguments to " ++ name ++ " using: ','")
  let letters := parts.flatten
  match letters.find? fun c => !"bcdpfls".toList.contains c with
  | some c => refuse ("Unknown argument to " ++ name ++ ": " ++ c.toString)
  | none =>
    pure (.holds fun s v =>
      let kind := if through then
          ((s.facts v.text).toOption.map (·.kind)).getD v.facts.kind
        else v.facts.kind
      letters.contains (kindLetter kind))

/-- The text of a file below the one where the search began. -/
def below (v : Visit) : String :=
  String.ofList ((v.text.toList.drop v.start.length).dropWhile (· = '/'))

/-- What a directive about a file stands for, and how many letters it has. -/
def directive (s : State) (v : Visit) : List Char → Option (String × Nat)
  | 'f' :: _ => some (lastName v.text, 1)
  | 'p' :: _ => some (v.text, 1)
  | 'P' :: _ => some (below v, 1)
  | 'H' :: _ => some (v.start, 1)
  | 'h' :: _ => some (if v.text.contains '/' then
      String.ofList (((v.text.toList.reverse.dropWhile (· ≠ '/')).drop 1).reverse) else ".", 1)
  | 's' :: _ => some (toString v.facts.size, 1)
  | 'y' :: _ => some ((kindLetter v.facts.kind).toString, 1)
  | 'Y' :: _ => some ((s.facts v.text).toOption.elim "N" fun facts =>
      (kindLetter facts.kind).toString, 1)
  | 'd' :: _ => some (toString v.depth, 1)
  | 'm' :: _ => some (Mode.digits v.facts.mode, 1)
  | 'M' :: _ => some ((Tool.kindLetter v.facts.kind).toString ++ Mode.letters v.facts.mode, 1)
  | 'u' :: _ | 'g' :: _ => some ("root", 1)
  | 'U' :: _ | 'G' :: _ => some ("0", 1)
  | 'n' :: _ => some (toString (linkCount s v.facts), 1)
  | 'i' :: _ => some (factText s v.text v.facts 'i', 1)
  | 'k' :: _ => some (toString (blockCount v.facts), 1)
  | 'b' :: _ => some (toString (2 * blockCount v.facts), 1)
  | 'l' :: _ =>
    match s.files.lookup v.facts.path with
    | some (.link target) => some (target, 1)
    | _ => some ("", 1)
  | 't' :: _ => some (Calendar.format (changed s v.facts) "%a %b %e %H:%M:%S.0000000000 %Y", 1)
  | 'T' :: '@' :: _ | 'A' :: '@' :: _ | 'C' :: '@' :: _ =>
    some (toString (changed s v.facts) ++ ".0000000000", 2)
  | 'T' :: c :: _ | 'A' :: c :: _ | 'C' :: c :: _ =>
    let form := if c = '+' then "%Y-%m-%d+%H:%M:%S.0000000000"
      else if c = 'S' then "%S.0000000000"
      else if c = 'T' then "%H:%M:%S.0000000000" else String.ofList ['%', c]
    some (Calendar.format (changed s v.facts) form, 2)
  | '%' :: _ => some ("%", 1)
  | _ => none

/-- What a form with directives stands for. -/
def printed (s : State) (v : Visit) : Nat → List Char → List Char
  | 0, _ | _, [] => []
  | fuel + 1, '\\' :: rest =>
    match rest with
    | 'c' :: _ => []
    | c :: more =>
      match [('n', '\n'), ('t', '\t'), ('\\', '\\'), ('a', '\x07'), ('b', '\x08'), ('f', '\x0c'),
          ('r', '\r'), ('v', '\x0b')].lookup c with
      | some plain => plain :: printed s v fuel more
      | none =>
        let digits := (rest.take 3).takeWhile Format.isOctal
        if digits.isEmpty then '\\' :: c :: printed s v fuel more
        else
          Char.ofNat ((Text.digitsAfter 8 0 digits).getD 0 % 256) ::
            printed s v fuel (rest.drop digits.length)
    | [] => ['\\']
  | fuel + 1, '%' :: rest =>
    let flags := rest.takeWhile fun c => "-0+ #".toList.contains c
    let after := rest.drop flags.length
    let width := after.takeWhile Char.isDigit
    let after := after.drop width.length
    let precision := match after with
      | '.' :: more => some (more.takeWhile Char.isDigit)
      | _ => none
    let after := after.drop (precision.elim 0 (·.length + 1))
    match directive s v after with
    | none => '%' :: printed s v fuel rest
    | some (value, used) =>
      let n := (Text.digitsAfter 10 0 width).getD 0
      let value := match precision with
        | some digits => String.ofList (value.toList.take ((Text.digitsAfter 10 0 digits).getD 0))
        | none => value
      let full := if flags.contains '-' then padRight n value
        else if flags.contains '0' && value.toList.all Char.isDigit then
          String.ofList (List.replicate (n - value.length) '0') ++ value
        else padLeft n value
      full.toList ++ printed s v fuel (after.drop used)
  | fuel + 1, c :: rest => c :: printed s v fuel rest

/-- Marks that the expression has an action. -/
def marksAction : Reading Unit :=
  modify fun u => { u with form := { u.form with acts := true } }

/-- An action that writes, and always holds. -/
def writes (text : State → Visit → List Char) : Reading Expr := do
  marksAction
  pure (.act fun v => do
    write (text (← get) v)
    pure true)

/-- An action that writes to a file. -/
def writesTo (file : String) (text : State → Visit → List Char) : Reading Expr := do
  marksAction
  pure (.act fun v => do
    let s ← get
    let old := (s.files.read s.folder file).toOption.getD .empty
    match s.files.write s.folder file (old ++ Text.toContent (text s v)) with
    | .ok files =>
      set { s with files }
      pure true
    | .error _ => pure true)

/-- The words of a command up to its end: a semicolon, or a plus sign after the mark for files. -/
def commandWords (last : String) : List String → Option (List String × Bool × List String)
  | [] => none
  | word :: rest =>
    if word = ";" then some ([], false, rest)
    else if word = "+" && (last.splitOn "\x7b\x7d").length ≠ 1 then some ([], true, rest)
    else (commandWords word rest).map fun (words, many, rest) => (word :: words, many, rest)

/-- Runs a command, and tells whether it ends well. -/
def runCommand (r : Runner) (prepare : Act Unit) (words : List String) : Act Bool := do
  match ← runChild r prepare (words.headD "") (words.drop 1) with
  | .exited status => pure (status = 0)
  | .killed _ => pure false
  | .refused e =>
    complain (inQuotes (words.headD "") ++ ": " ++ e.reason)
    pure false

/-- The action that runs a command. -/
def execution (r : Runner) (name : String) (inFolder : Bool) : Reading Expr := do
  let mark := "\x7b\x7d"
  match commandWords "" (← get).rest with
  | none => refuse ("missing argument to \x60" ++ name ++ "'")
  | some ([], _, _) => refuse ("missing argument to \x60" ++ name ++ "'")
  | some (words, many, rest) =>
    modify fun u => { u with rest }
    marksAction
    let marked := words.filter fun word => (word.splitOn mark).length ≠ 1
    if many && 1 < marked.length then
      refuse ("Only one instance of \x7b\x7d is supported with " ++ name ++ " ... +")
    else if many then
      let fixed := words.dropLast
      match marked.find? (· ≠ mark) with
      | some word =>
        refuse ("In '" ++ name ++ " ... \x7b\x7d +' the '\x7b\x7d' must appear by itself, but " ++
          "you specified '" ++ word ++ "'")
      | none =>
        let u ← get
        set { u with form := { u.form with commands := u.form.commands ++ [fixed] } }
        pure (.keep u.form.commands.length)
    else
      pure (.act fun v => do
        let text := if inFolder then "./" ++ lastName v.text else v.text
        let prepare : Act Unit := if inFolder then
            modify fun s => { s with folder := v.facts.path.dropLast }
          else pure ()
        runCommand r prepare (words.map (Xargs.withMark mark text)))

/-- The action that deletes a file. -/
def deletion : Expr :=
  .act fun v => do
    let s ← get
    if v.text = "." then pure true
    else if v.facts.kind = .folder && !(s.files.children v.facts.path).isEmpty then
      deplore ("cannot delete " ++ inQuotes v.text ++ ": " ++ FileError.notEmpty.reason)
      pure false
    else
      set { s with files := s.files.erase v.facts.path }
      pure true

/-- The line of a file in a long listing. -/
def longLine (s : State) (v : Visit) : String :=
  padLeft 9 (factText s v.text v.facts 'i') ++ " " ++
    padLeft 6 (toString (blockCount v.facts)) ++ " " ++
    (Tool.kindLetter v.facts.kind).toString ++ Mode.letters v.facts.mode ++ " " ++
    padLeft 3 (toString (linkCount s v.facts)) ++ " root     root     " ++
    padLeft 8 (toString v.facts.size) ++ " " ++
    Calendar.format (changed s v.facts) "%b %e %H:%M" ++ " " ++ v.text ++ "\n"

/-- The test of the age of a file in units of some seconds. -/
def ageTest (name text : String) (unit : Nat) : Reading Expr := do
  match comparison? text with
  | some (sign, n) =>
    pure (.holds fun _ v =>
      let age := v.facts.age / Entry.perSecond
      let count := if unit = 60 then (age + 59) / 60 else age / unit
      compares sign n count)
  | none => refuse ("invalid argument \x60" ++ text ++ "' to \x60" ++ name ++ "'")

/-- The test that a file is newer than a moment. -/
def newerTest (age : State → Except FileError Int) (s : State) (text : String) : Reading Expr := do
  match age s with
  | .ok age => pure (.holds fun _ v => v.facts.age < age)
  | .error e => refuse (inQuotes text ++ ": " ++ e.reason)

/-- Changes what the expression says of the search. It always holds. -/
def adjusts (change : Form → Form) : Reading Expr := do
  modify fun u => { u with form := change u.form }
  pure (.holds fun _ _ => true)

/-- The number of levels that is the argument of a part of the expression. -/
def levels (name : String) : Reading Nat := do
  let text ← argument name
  match text.toNat? with
  | some n => pure n
  | none =>
    refuse ("Expected a positive decimal integer argument to " ++ name ++ ", but got '" ++ text ++
      "'")

/-- The test of a text by a regular expression, which has to fit all of it. -/
def regexTest (folds : Bool) (text : String) : Reading Expr := do
  match Regex.read (← get).form.regexes text.toList with
  | .error refusal =>
    refuse ("failed to compile regular expression '" ++ text ++ "': " ++ refusal.message)
  | .ok regex =>
    let regex := if folds then regex.foldCase else regex
    pure (.holds fun _ v => regex.accepts v.text.toList.toArray)

/-- Reads a test or an action of the given name. -/
def primary (r : Runner) (s : State) (name : String) : Reading Expr := do
  match name with
  | "-true" => pure (.holds fun _ _ => true)
  | "-false" | "-nouser" | "-nogroup" => pure (.holds fun _ _ => false)
  | "-name" =>
    let p ← argument name
    pure (.holds fun _ v => fits false p (lastName v.text))
  | "-iname" =>
    let p ← argument name
    pure (.holds fun _ v => fits true p (lastName v.text))
  | "-path" | "-wholename" =>
    let p ← argument name
    pure (.holds fun _ v => fits false p v.text)
  | "-ipath" | "-iwholename" =>
    let p ← argument name
    pure (.holds fun _ v => fits true p v.text)
  | "-lname" | "-ilname" =>
    let p ← argument name
    pure (.holds fun s v =>
      match s.files.lookup v.facts.path with
      | some (.link target) => fits (name = "-ilname") p target
      | _ => false)
  | "-regex" => regexTest false (← argument name)
  | "-iregex" => regexTest true (← argument name)
  | "-regextype" =>
    let kind ← argument name
    match regexForms.lookup kind with
    | some regexes => adjusts fun form => { form with regexes }
    | none =>
      let names := regexForms.map fun (name, _) => "'" ++ name ++ "'"
      refuse ("Unknown regular expression type '" ++ kind ++ "'; valid types are " ++
        String.intercalate ", " names ++ ".")
  | "-type" => kindTest name (← argument name) false
  | "-xtype" => kindTest name (← argument name) true
  | "-size" => sizeTest (← argument name)
  | "-empty" =>
    pure (.holds fun s v =>
      match v.facts.kind with
      | .folder => (s.files.children v.facts.path).isEmpty
      | .regular => v.facts.size = 0
      | _ => false)
  | "-perm" => modeTest (← argument name)
  | "-user" | "-group" =>
    let text ← argument name
    if (user? text).isNone && (text.toNat?).isNone then
      refuse (inQuotes text ++ " is not the name of " ++
        (if name = "-user" then "a known user" else "an existing group"))
    pure (.holds fun _ _ => text = "root" || text = "0")
  | "-uid" | "-gid" =>
    let text ← argument name
    pure (.holds fun _ _ => (comparison? text).any fun (sign, n) => compares sign n 0)
  | "-links" =>
    let text ← argument name
    pure (.holds fun s v =>
      (comparison? text).any fun (sign, n) => compares sign n (linkCount s v.facts : Nat))
  | "-inum" =>
    let text ← argument name
    pure (.holds fun s v => factText s v.text v.facts 'i' = text)
  | "-samefile" =>
    let text ← argument name
    match s.facts text with
    | .ok facts =>
      pure (.holds fun s v => s.files.firstName v.facts.path = s.files.firstName facts.path)
    | .error e => refuse (inQuotes text ++ ": " ++ e.reason)
  | "-newer" | "-anewer" | "-cnewer" | "-newermm" =>
    let text ← argument name
    newerTest (fun s => (s.facts text).map (·.age)) s text
  | "-newermt" =>
    let text ← argument name
    match Calendar.read s.now text with
    | some t => newerTest (fun s => .ok ((s.now - t) * 1000)) s text
    | none =>
      refuse ("I cannot figure out how to interpret " ++ inQuotes text ++ " as a date or time")
  | "-mtime" | "-atime" | "-ctime" => ageTest name (← argument name) 86400
  | "-mmin" | "-amin" | "-cmin" => ageTest name (← argument name) 60
  | "-readable" | "-writable" => pure (.holds fun _ _ => true)
  | "-executable" => pure (.holds fun _ v => v.facts.isExecutable)
  | "-maxdepth" =>
    let n ← levels name
    adjusts fun form => { form with most := some n }
  | "-mindepth" =>
    let n ← levels name
    adjusts fun form => { form with least := n }
  | "-depth" | "-d" => adjusts fun form => { form with depthFirst := true }
  | "-follow" => adjusts fun form => { form with follows := true }
  | "-mount" | "-xdev" | "-noleaf" | "-warn" | "-nowarn" | "-ignore_readdir_race" |
    "-noignore_readdir_race" | "-daystart" => adjusts id
  | "-prune" =>
    let _ ← adjusts fun form => { form with prunes := true }
    pure .prune
  | "-quit" => pure .quit
  | "-print" => writes fun _ v => v.text.toList ++ ['\n']
  | "-print0" => writes fun _ v => v.text.toList ++ ['\x00']
  | "-ls" => writes fun s v => (longLine s v).toList
  | "-printf" =>
    let form ← argument name
    if form.endsWith "%" && !form.endsWith "%%" then
      refuse "error: % at end of format string"
    writes fun s v => printed s v (form.length + 1) form.toList
  | "-fprint" =>
    let file ← argument name
    writesTo file fun _ v => v.text.toList ++ ['\n']
  | "-fprint0" =>
    let file ← argument name
    writesTo file fun _ v => v.text.toList ++ ['\x00']
  | "-fprintf" =>
    let file ← argument name
    let form ← argument name
    writesTo file fun s v => printed s v (form.length + 1) form.toList
  | "-delete" =>
    marksAction
    let _ ← adjusts fun form => { form with depthFirst := true, deletes := true }
    pure deletion
  | "-exec" => execution r name false
  | "-execdir" => execution r name true
  | "-ok" | "-okdir" =>
    let command := (← peek).getD ""
    match ← execution r name (name = "-okdir") with
    | .act action =>
      pure (.act fun v => do
        warn ("< " ++ command ++ " ... " ++ v.text ++ " > ? ")
        let line := ((← get).rest? 0).getD []
        let answer := line.takeWhile (· ≠ '\n')
        modify fun s => s.advance 0 (answer.length + 1)
        if answer.head? = some 'y' || answer.head? = some 'Y' then action v else pure false)
    | other => pure other
  | _ =>
    if name.startsWith "-" then refuse ("unknown predicate \x60" ++ name ++ "'")
    else refuse ("paths must precede expression: \x60" ++ name ++ "'")

/-- Refuses an operator that has nothing before it. -/
def noOperand {α : Type} (op : String) : Reading α :=
  refuse ("invalid expression; you have used a binary operator '" ++ op ++
    "' with nothing before it.")

mutual

/-- Reads expressions of which each is put to the file. -/
def list (r : Runner) (s : State) : Nat → Reading Expr
  | 0 => refuse "invalid expression"
  | fuel + 1 => do
    let first ← choice r s fuel
    match ← peek with
    | some "," =>
      skip
      if (← peek).isNone then refuse "expected an expression after ','"
      pure (.sequence first (← list r s fuel))
    | _ => pure first

/-- Reads expressions of which one has to hold. -/
def choice (r : Runner) (s : State) : Nat → Reading Expr
  | 0 => refuse "invalid expression"
  | fuel + 1 => do
    let first ← chain r s fuel
    match ← peek with
    | some op =>
      if op = "-o" || op = "-or" then
        skip
        if (← peek).isNone then refuse ("expected an expression after '" ++ op ++ "'")
        pure (.either first (← choice r s fuel))
      else pure first
    | none => pure first

/-- Reads expressions that have to hold together. -/
def chain (r : Runner) (s : State) : Nat → Reading Expr
  | 0 => refuse "invalid expression"
  | fuel + 1 => do
    let first ← term r s fuel
    match ← peek with
    | none | some "-o" | some "-or" | some "," | some ")" => pure first
    | some op =>
      if op = "-a" || op = "-and" then
        skip
        if (← peek).isNone then refuse ("expected an expression after '" ++ op ++ "'")
      pure (.both first (← chain r s fuel))

/-- Reads a single test, or an expression in brackets. -/
def term (r : Runner) (s : State) : Nat → Reading Expr
  | 0 => refuse "invalid expression"
  | fuel + 1 => do
    match ← peek with
    | none => refuse "invalid expression"
    | some word =>
      skip
      match word with
      | "!" | "-not" =>
        if (← peek).isNone then refuse ("expected an expression after '" ++ word ++ "'")
        pure (.negated (← term r s fuel))
      | "(" =>
        match ← peek with
        | some ")" => refuse "invalid expression; empty parentheses are not allowed."
        | none =>
          refuse ("invalid expression; expected to find a ')' but didn't see one. " ++
            "Perhaps you need an extra predicate after '('")
        | _ =>
          let inner ← list r s fuel
          match ← peek with
          | some ")" =>
            skip
            pure inner
          | _ =>
            refuse ("invalid expression; I was expecting to find a ')' somewhere but did not " ++
              "see one.")
      | ")" => refuse "invalid expression; you have too many ')'"
      | "-o" | "-or" | "-a" | "-and" | "," => noOperand word
      | name => primary r s name

end

/-- Reads the whole expression. -/
def expression (r : Runner) (s : State) (words : List String) :
    Except String (Option Expr × Form) :=
  if words.isEmpty then .ok (none, {})
  else
    match (list r s (4 * words.length + 8)).run { rest := words, form := {} } with
    | .error text => .error text
    | .ok (expr, u) =>
      match u.rest with
      | [] => .ok (some expr, u.form)
      | ")" :: _ => .error "you have too many ')'"
      | word :: _ => .error ("paths must precede expression: \x60" ++ word ++ "'")

/-- Visits a file, and what is in it if it is a folder. -/
def visit (form : Form) (expr : Expr) : Nat → Visit → Search → Act Search
  | 0, _, st => pure st
  | fuel + 1, v, st => do
    let look := fun (st : Search) =>
      if v.depth < form.least then pure st else do
        let (_, st) ← expr.run v { st with pruned := false }
        pure st
    let goInside := fun (st : Search) => do
      if v.facts.kind ≠ .folder || st.ended || form.most.any (· ≤ v.depth) then pure st
      else
        let s ← get
        (s.files.children v.facts.path).foldlM (fun (st : Search) entry => do
          if st.ended then pure st
          else
            let text := inFolder v.text (entry.path.getLastD "")
            let s ← get
            let facts := match s.facts text form.follows with
              | .ok facts => some facts
              | .error _ => (s.facts text false).toOption
            match facts with
            | none => pure st
            | some facts =>
              visit form expr fuel { v with text, facts, depth := v.depth + 1 } st) st
    if form.depthFirst then look (← goInside st)
    else
      let st ← look { st with pruned := false }
      if st.pruned then pure { st with pruned := false } else goInside st

/-- The words of a command line that say where to begin, and the expression after them. -/
def splitArgs (args : List String) : List String × List String :=
  args.span fun word =>
    !((word.startsWith "-" && word ≠ "-") || word = "(" || word = "!")

/-- Searches trees of files. -/
def run (r : Runner) (args : List String) : Act Unit := do
  let (modes, args) := args.span fun word => word = "-L" || word = "-H" || word = "-P"
  if args.head? = some "--version" || args.head? = some "-version" then
    writeText "find (GNU findutils) 4.9.0\n"
    throw .exit
  let (starts, words) := splitArgs args
  let starts := if starts.isEmpty then ["."] else starts
  let s ← get
  match expression r s words with
  | .error text => fail text
  | .ok (expr, form) =>
    if form.deletes && form.prunes then
      fail ("The -delete action automatically turns on -depth, but -prune does nothing when " ++
        "-depth is in effect.  If you want to carry on anyway, just explicitly use the -depth " ++
        "option.")
    let print : Expr := .act fun v => do
      write (v.text.toList ++ ['\n'])
      pure true
    let expr := match expr with
      | none => print
      | some expr => if form.acts then expr else .both expr print
    let form := { form with
      follows := form.follows || modes.getLast? = some "-L"
      followsStarts := modes.getLast? = some "-H" }
    let st ← starts.foldlM (fun (st : Search) text => do
      if st.ended then pure st
      else
        let s ← get
        let follows := form.follows || form.followsStarts
        let facts : Except FileError FileFacts := match s.facts text follows with
          | .ok facts => .ok facts
          | .error e => if follows then s.facts text false else .error e
        match facts with
        | .error e =>
          deplore (inQuotes text ++ ": " ++ e.reason)
          pure st
        | .ok facts =>
          visit form expr (s.files.entries.length + 2) ⟨text, facts, 0, text⟩ st) {}
    forAll form.commands.zipIdx fun (words, n) => do
      let texts := (st.kept.filter (·.1 = n)).reverse.map (·.2)
      if !texts.isEmpty then
        if !(← runCommand r (pure ()) (words ++ texts)) then finish 1

end RemoteAttach.Tool.Find
