import RemoteAttach.Tool.Host
import RemoteAttach.Tool.Mode

/-! Programs that make files and folders, remove folders, and change what is known about files. -/

namespace RemoteAttach.Tool

open Shell Act

/-- What stands where a text leads to, with its path. -/
def nodeAt (s : State) (text : String) (follows : Bool := true) :
    Except FileError (Path × Node) := do
  let path ← s.files.resolve s.folder text follows
  match s.files.lookup path with
  | some node => .ok (path, node)
  | none => .error .notFound

/-- A text without the solidi at its end. -/
def bareText (text : String) : String :=
  let bare := trimmedPath text.toList
  if bare.isEmpty then text else String.ofList bare

/-- Complains about what cannot be done with a file, for the system's reason. -/
def deploreDoing (what text : String) (e : FileError) : Act Unit :=
  deplore (what ++ " " ++ inQuotes text ++ ": " ++ e.reason)

/-- Asks whether something is to be done. The answer is a line of the input. -/
def isAgreed (question : String) : Act Bool := do
  warn ((← get).name ++ ": " ++ question ++ "? ")
  let s ← get
  let rest := (s.rest? 0).getD []
  let line := rest.takeWhile (· ≠ '\n')
  set (s.advance 0 (min rest.length (line.length + 1)))
  pure (line.head?.any fun c => c = 'y' || c = 'Y')

/-- Asks before something is done, if that is wanted, and tells whether it may not be done. -/
def isDeclined (asks : Bool) (question : String) : Act Bool := do
  if asks then pure !(← isAgreed question) else pure false

/-- Makes a folder, with permission bits of its own if they are given. -/
def makeFolder (text : String) (mode : Option Nat := none) : Act (Option FileError) := do
  let s ← get
  match s.files.resolve s.folder (bareText text) false with
  | .error e => pure (some e)
  | .ok path =>
    match s.files.lookup path with
    | some _ => pure (some .alreadyExists)
    | none =>
      let bits := mode.getD (0o777 &&& (0o777 ^^^ s.mask))
      set { s with files := s.files.add (.alone path (.folder bits)) }
      pure none

/-- The texts that lead to the folders on the way along a path, the first one first. -/
def waysTo (text : String) : List String :=
  let names := Path.names (bareText text)
  let all := (List.range names.length).map fun n =>
    (String.intercalate "/" (names.take (n + 1)), names.getD n "")
  (all.filter fun (_, name) => name ≠ "").map (·.1)

/-- Makes the folders along a path, as far as they are not there. The last one may have permission
bits of its own; those above it may be entered and written to. -/
def makeFoldersAlong (tells : Bool) (mode : Option Nat) : List String → Act Unit
  | [] => pure ()
  | text :: rest => do
    let s ← get
    if s.files.isFolder s.folder text then makeFoldersAlong tells mode rest
    else
      let bits := if rest.isEmpty then mode
        else some ((0o777 &&& (0o777 ^^^ s.mask)) ||| 0o300)
      match ← makeFolder text bits with
      | none =>
        if tells then writeText (s.name ++ ": created directory " ++ inQuotes text ++ "\n")
        makeFoldersAlong tells mode rest
      | some e =>
        let e := if e = .alreadyExists && !rest.isEmpty then .notDirectory else e
        deploreDoing "cannot create directory" text e

/-- Makes folders. -/
def mkdir (args : List String) : Act Unit := do
  let f ← options {
    letters := "pm:vZ"
    names := [("parents", 'p', .nothing), ("mode", 'm', .value), ("verbose", 'v', .nothing)] } args
  if f.operands.isEmpty then misuse "missing operand"
  let mask := (← get).mask
  let mode ← match f.value? 'm' with
    | some text =>
      match Mode.read? text with
      | some change => pure (some (change.apply mask true 0o777))
      | none => fail ("invalid mode " ++ inQuotes text)
    | none => pure none
  forAll f.operands fun text => do
    if f.has 'p' && !text.isEmpty then makeFoldersAlong (f.has 'v') mode (waysTo text)
    else
      match ← makeFolder text mode with
      | none =>
        if f.has 'v' then
          writeText ((← get).name ++ ": created directory " ++ inQuotes text ++ "\n")
      | some e => deploreDoing "cannot create directory" text e

/-- Removes an empty folder. -/
def removeFolder (text : String) : Act (Option FileError) := do
  let s ← get
  if lastName text = "." then pure (some .invalidArgument)
  else
    match nodeAt s (bareText text) false with
    | .error e => pure (some e)
    | .ok (path, .folder _) =>
      if !(s.files.children path).isEmpty then pure (some .notEmpty)
      else
        set { s with files := s.files.erase path }
        pure none
    | .ok _ => pure (some .notDirectory)

/-- Removes folders, each with those above it that are then empty if that is wanted. -/
def rmdir (args : List String) : Act Unit := do
  let f ← options {
    letters := "pvi"
    names := [("parents", 'p', .nothing), ("verbose", 'v', .nothing),
      ("ignore-fail-on-non-empty", 'i', .nothing)] } args
  if f.operands.isEmpty then misuse "missing operand"
  forAll f.operands fun operand => do
    let above := if f.has 'p' then (waysTo operand).dropLast.reverse else []
    let _ ← (operand :: above).foldlM (fun (going : Bool × Bool) text => do
      if !going.1 then pure going
      else
        if f.has 'v' then
          writeText ((← get).name ++ ": removing directory, " ++ inQuotes text ++ "\n")
        match ← removeFolder text with
        | none => pure (true, false)
        | some .notEmpty =>
          if !f.has 'i' then
            let what := if going.2 then "failed to remove" else "failed to remove directory"
            deploreDoing what text .notEmpty
          pure (false, false)
        | some e =>
          let what := if going.2 then "failed to remove" else "failed to remove directory"
          deploreDoing what text e
          pure (false, false)) (true, true)

/-- The moment that a text of digits tells: a month, day, hour and minute, perhaps with a year
before and seconds behind. -/
def stamp? (now : Int) (text : String) : Option Int := do
  let (digits, second) ← match Text.pieces ['.'] text.toList with
    | [digits] => some (digits, ['0', '0'])
    | [digits, second] => some (digits, second)
    | _ => none
  let two := fun (place : Nat) => Calendar.number? ((digits.drop place).take 2)
  let before ← match digits.length with
    | 8 => some 0
    | 10 => some 2
    | 12 => some 4
    | _ => none
  let year : Int ← match before with
    | 0 => some (Calendar.shown now).year
    | 2 => (two 0).map fun n => if n < 69 then (2000 + n : Nat) else (1900 + n : Nat)
    | _ => (Calendar.number? (digits.take 4)).map fun n => (n : Int)
  let month ← two before
  let day ← two (before + 2)
  let hour ← two (before + 4)
  let minute ← two (before + 6)
  let second ← Calendar.number? second
  if month = 0 || 12 < month || day = 0 || 31 < day || 23 < hour || 59 < minute || 60 < second then
    none
  else
    some (Calendar.daysBefore year month day * 86400 + (hour * 3600 + minute * 60 + second : Nat))

/-- The permission bits of a new file. -/
def newMode (s : State) : Nat :=
  0o666 &&& (0o777 ^^^ s.mask)

/-- Makes files, or sets the time of their last change. -/
def touch (args : List String) : Act Unit := do
  let f ← options {
    letters := "acd:fhmr:t:"
    names := [("no-create", 'c', .nothing), ("date", 'd', .value), ("reference", 'r', .value),
      ("no-dereference", 'h', .nothing), ("time", 'T', .value)] } args
  let s ← get
  let moment ← match f.value? 'd', f.value? 't', f.value? 'r' with
    | some text, _, _ =>
      match Calendar.read s.now text with
      | some t => pure (some t)
      | none => fail ("invalid date format " ++ inQuotes text)
    | none, some text, _ =>
      match stamp? s.now text with
      | some t => pure (some t)
      | none => fail ("invalid date format " ++ inQuotes text)
    | none, none, some file =>
      match s.facts file with
      | .ok facts => pure (some (s.now - Int.fdiv facts.age Entry.perSecond))
      | .error e => fail ("failed to get attributes of " ++ inQuotes file ++ ": " ++ e.reason)
    | none, none, none => pure none
  if f.operands.isEmpty then misuse "missing file operand"
  let age := match moment with
    | some t => (s.now - t) * Entry.perSecond
    | none => 0
  forAll f.operands fun text => do
    let s ← get
    match s.files.resolve s.folder text (!f.has 'h') with
    | .error e =>
      if text.endsWith "/" then deplore ("setting times of " ++ inQuotes text ++ ": " ++ e.reason)
      else if !(f.has 'c' && e = .notFound) then deploreDoing "cannot touch" text e
    | .ok path =>
      match s.files.lookup path with
      | some node => set { s with files := s.files.replace (.alone path node age) }
      | none =>
        if !f.has 'c' then
          set { s with files := s.files.add (.alone path (.file .empty (newMode s)) age) }

/-- The entries at a path and below it. -/
def entriesFrom (files : FileTree) (path : Path) : List Entry :=
  files.entries.filter fun entry => path.isPrefixOf entry.path

/-- Sets the permission bits of one entry. A change that was written like an option is complained of
if the mask keeps it from all that it seems to say. -/
def setMode (f : Found) (change : Mode.Change) (isOption : Bool) (text : String) (entry : Entry) :
    Act Unit := do
  let s ← get
  let facts := FileFacts.ofEntry entry
  let mode := change.apply s.mask (facts.kind = .folder) facts.mode
  let form := fun (mode : Nat) =>
    let digits := Mode.digits mode
    String.ofList (List.replicate (4 - digits.length) '0') ++ digits ++ " (" ++
      Mode.letters mode ++ ")"
  if mode ≠ facts.mode then
    if f.has 'v' || f.has 'c' then
      writeText ("mode of " ++ inQuotes text ++ " changed from " ++ form facts.mode ++ " to " ++
        form mode ++ "\n")
  else if f.has 'v' then
    writeText ("mode of " ++ inQuotes text ++ " retained as " ++ form mode ++ "\n")
  match entry.node with
  | .file content _ =>
    modify fun s => { s with files := s.files.replace { entry with node := .file content mode } }
  | .folder _ =>
    modify fun s => { s with files := s.files.replace { entry with node := .folder mode } }
  | _ => pure ()
  if isOption then
    let naive := change.apply 0 (facts.kind = .folder) facts.mode
    if mode &&& (0o7777 ^^^ naive) ≠ 0 then
      deplore (shown text ++ ": new permissions are " ++ Mode.letters mode ++ ", not " ++
        Mode.letters naive)

/-- Sets permission bits. -/
def chmod (args : List String) : Act Unit := do
  let isMode := fun (text : String) =>
    match text.toList with
    | '-' :: c :: _ => "rwxXstugoa,+-=01234567".toList.contains c && c ≠ '-'
    | _ => false
  let (modes, args) := args.partition isMode
  let f ← options {
    letters := "Rcfv"
    names := [("recursive", 'R', .nothing), ("changes", 'c', .nothing), ("silent", 'f', .nothing),
      ("quiet", 'f', .nothing), ("verbose", 'v', .nothing), ("reference", 'r', .value),
      ("preserve-root", 'P', .nothing), ("no-preserve-root", 'N', .nothing)] } args
  let s ← get
  let given := match modes with
    | [] => f.operands
    | modes => String.intercalate "," modes :: f.operands
  let (change, operands) ← match f.value? 'r', given with
    | some file, _ =>
      match s.facts file with
      | .ok facts => pure (Mode.Change.digits facts.mode true, f.operands)
      | .error e => fail ("failed to get attributes of " ++ inQuotes file ++ ": " ++ e.reason)
    | none, [] => misuse "missing operand"
    | none, [mode] => misuse ("missing operand after " ++ inQuotes mode)
    | none, mode :: operands =>
      match Mode.read? mode with
      | some change => pure (change, operands)
      | none => misuse ("invalid mode: " ++ inQuotes mode)
  forAll operands fun text => do
    let s ← get
    match nodeAt s text with
    | .error e =>
      let isLink := (nodeAt s text false).isOk
      if f.has 'f' then finish 1
      else if isLink then deplore ("cannot operate on dangling symlink " ++ inQuotes text)
      else deploreDoing "cannot access" text e
    | .ok (path, _) =>
      let all := if f.has 'R' then entriesFrom s.files path
        else s.files.entries.filter (·.path = path)
      forAll all fun entry => do
        let below := entry.path.drop path.length
        setMode f change (!modes.isEmpty) (String.intercalate "/" (text :: below)) entry

end RemoteAttach.Tool
