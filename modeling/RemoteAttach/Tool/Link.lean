import RemoteAttach.Tool.Backup

/-! Programs that make further names for files and links to them, take names away, and tell where
links lead to. -/

namespace RemoteAttach.Tool

open Shell Act

/-- The text that leads from a folder to a path. -/
def relativeText (folder aim : Path) : String :=
  let shared := (List.zip folder aim).takeWhile fun (a, b) => a = b
  let up := List.replicate (folder.length - shared.length) ".."
  let names := up ++ aim.drop shared.length
  if names.isEmpty then "." else String.intercalate "/" names

/-- How links are made. -/
structure LinkForm where
  soft : Bool
  /-- A link leads from the folder that it stands in. -/
  relative : Bool
  /-- What stands in the way is removed. -/
  forced : Bool
  asks : Bool
  tells : Bool
  /-- A further name for a link is one for what the link leads to. -/
  follows : Bool
  backup : Backup

/-- Complains that a link cannot be made. -/
def LinkForm.refuse (form : LinkForm) (target text : String) (e : FileError) : Act Unit :=
  let words := "failed to create " ++ (if form.soft then "symbolic" else "hard") ++ " link " ++
    inQuotes text
  let source := if form.soft then if target.isEmpty then " -> ''" else ""
    else if e = .alreadyExists then "" else " => " ++ inQuotes target
  deplore (words ++ source ++ ": " ++ e.reason)

/-- Makes one link. -/
def LinkForm.make (form : LinkForm) (target text : String) : Act Unit := do
  let s ← get
  let source := nodeAt s target form.follows
  match form.soft, source with
  | false, .error e => deploreDoing "failed to access" target e
  | false, .ok (_, .folder _) => deplore (target ++ ": hard link not allowed for directory")
  | _, _ =>
    match s.files.resolve s.folder text false with
    | .error e => form.refuse target text e
    | .ok path =>
      let target := if form.relative then
          match s.files.resolve s.folder target with
          | .ok aim => relativeText path.dropLast aim
          | .error _ => target
        else target
      let place := fun (kept : Option String) => do
        let s ← get
        let files := match form.soft, source with
          | false, .ok (start, _) => s.files.addName start path
          | _, _ => s.files.add (.alone path (.link target))
        set { s with files }
        if form.tells then
          let before := kept.elim "" fun ending => inQuotes (text ++ ending) ++ " ~ "
          writeLines [before ++ inQuotes text ++ (if form.soft then " -> " else " => ") ++
            inQuotes target]
      match s.files.lookup path with
      | none => if target.isEmpty then form.refuse target text .notFound else place none
      | some old =>
        let itself := (nodeAt s target (form.soft || form.follows)).toOption.any (·.1 = path)
        if (form.forced || form.asks || form.backup ≠ .none) && old.isFolder then
          deplore (shown text ++ ": cannot overwrite directory")
        else if itself && (if form.soft then form.forced && form.backup = .none
            else form.forced || form.backup ≠ .none) then
          deplore (inQuotes target ++ " and " ++ inQuotes text ++ " are the same file")
        else if ← isDeclined form.asks ("replace " ++ inQuotes text) then pure ()
        else if form.backup ≠ .none then place (← form.backup.keep path)
        else if form.forced || form.asks then
          modify fun s => { s with files := s.files.erase path }
          place none
        else form.refuse target text .alreadyExists

/-- Makes links. -/
def ln (args : List String) : Act Unit := do
  let f ← options {
    letters := "bdfFiLnPrsS:t:Tv"
    names := Backup.names ++ [("force", 'f', .nothing), ("interactive", 'i', .nothing),
      ("no-dereference", 'n', .nothing), ("relative", 'r', .nothing), ("symbolic", 's', .nothing),
      ("target-directory", 't', .value), ("no-target-directory", 'T', .nothing),
      ("verbose", 'v', .nothing), ("logical", 'L', .nothing), ("physical", 'P', .nothing),
      ("directory", 'd', .nothing)] } args
  if f.operands.isEmpty then misuse "missing file operand"
  if f.has 'r' && !f.has 's' then fail "cannot do --relative without --symbolic"
  if f.has 'T' && f.has 't' then
    fail "cannot combine --target-directory and --no-target-directory"
  let last := f.last? ['f', 'i']
  let form : LinkForm := {
    soft := f.has 's', relative := f.has 'r', forced := last = some 'f', asks := last = some 'i'
    tells := f.has 'v', follows := f.last? ['L', 'P'] = some 'L', backup := ← Backup.ofFound f }
  let s ← get
  let inside := fun (folder : String) (targets : List String) =>
    forAll targets fun target =>
      form.make target
        ((if folder.endsWith "/" then folder else folder ++ "/") ++ lastName target)
  let isFolder := fun (text : String) =>
    if f.has 'n' then (nodeAt s text false).toOption.any (·.2.isFolder)
    else s.files.isFolder s.folder text
  let named := f.value? 't'
  let enter := fun (folder : String) (targets : List String) => do
    match s.facts folder with
    | .error e =>
      let words := if named.isSome then "failed to access " else "target "
      fail (words ++ inQuotes folder ++ ": " ++ e.reason)
    | .ok facts =>
      if facts.kind = .folder then inside folder targets
      else
        let words := if named.isSome then " is not a directory"
          else ": " ++ FileError.notDirectory.reason
        fail ("target " ++ inQuotes folder ++ words)
  match named, f.has 'T', f.operands with
  | some folder, _, targets => enter folder targets
  | none, true, [target, text] => form.make target text
  | none, true, [target] => misuse ("missing destination file operand after " ++ inQuotes target)
  | none, true, operands => misuse ("extra operand " ++ inQuotes (operands.getD 2 ""))
  | none, false, [target] => form.make target ("./" ++ lastName target)
  | none, false, [target, text] =>
    if isFolder text then inside text [target] else form.make target text
  | none, false, operands => enter (operands.getLastD "") operands.dropLast

/-- Makes a second name for a file. -/
def link (args : List String) : Act Unit := do
  let f ← options { letters := "" } args
  match f.operands with
  | [] => misuse "missing operand"
  | [target] => misuse ("missing operand after " ++ inQuotes target)
  | [target, text] =>
    let s ← get
    let made : Except String State := do
      let (start, node) ← (nodeAt s target false).mapError FileError.reason
      let path ← (s.files.resolve s.folder text false).mapError FileError.reason
      if (s.files.lookup path).isSome then .error FileError.alreadyExists.reason
      else if node.isFolder then .error "Operation not permitted"
      else .ok { s with files := s.files.addName start path }
    match made with
    | .ok after => set after
    | .error reason =>
      deplore ("cannot create link " ++ inQuotes text ++ " to " ++ inQuotes target ++ ": " ++
        reason)
  | _ :: _ :: extra :: _ => misuse ("extra operand " ++ inQuotes extra)

/-- Removes one file. -/
def unlink (args : List String) : Act Unit := do
  let f ← options { letters := "" } args
  match f.operands with
  | [] => misuse "missing operand"
  | [text] =>
    let s ← get
    match nodeAt s text false with
    | .error e => deploreDoing "cannot unlink" text e
    | .ok (path, node) =>
      if node.isFolder then deploreDoing "cannot unlink" text .isDirectory
      else set { s with files := s.files.erase path }
  | _ :: extra :: _ => misuse ("extra operand " ++ inQuotes extra)

/-- Which parts of a path have to be there. -/
inductive Presence where
  | all
  | allButLast
  | none
  deriving DecidableEq

/-- The path that a text leads to, where parts of it may be missing. -/
def realPath (s : State) (presence : Presence) (text : String) : Except FileError Path := do
  match presence with
  | .all => (nodeAt s text).map (·.1)
  | .allButLast =>
    match s.files.resolve s.folder text with
    | .ok path => .ok path
    | .error e =>
      if text.endsWith "/" && e = .notFound then s.files.resolve s.folder (bareText text)
      else .error e
  | .none =>
    if text.isEmpty then .error .notFound
    else
      let start := if text.startsWith "/" then [] else s.folder
      .ok ((Path.names text).foldl (fun path name =>
        if name = "" || name = "." then path
        else if name = ".." then path.dropLast
        else
          match s.files.resolve [] (Path.text (path ++ [name])) with
          | .ok path => path
          | .error _ => path ++ [name]) start)

/-- The text of a path. -/
def pathText (path : Path) : String :=
  if path.isEmpty then "/" else Path.text path

/-- Writes where links lead to. -/
def readlink (args : List String) : Act Unit := do
  let f ← options {
    letters := "efmnqsvz"
    names := [("canonicalize", 'f', .nothing), ("canonicalize-existing", 'e', .nothing),
      ("canonicalize-missing", 'm', .nothing), ("no-newline", 'n', .nothing),
      ("quiet", 'q', .nothing), ("silent", 's', .nothing), ("verbose", 'v', .nothing),
      ("zero", 'z', .nothing)] } args
  if f.operands.isEmpty then misuse "missing operand"
  let several := 1 < f.operands.length
  if several && f.has 'n' then complain "ignoring --no-newline with multiple arguments"
  forAll f.operands fun text => do
    let s ← get
    let found : Except FileError String := match f.last? ['e', 'f', 'm'] with
      | some 'e' => (realPath s .all text).map pathText
      | some 'f' => (realPath s .allButLast text).map pathText
      | some _ => (realPath s .none text).map pathText
      | none =>
        match nodeAt s text false with
        | .ok (_, .link target) => .ok target
        | .ok _ => .error .invalidArgument
        | .error e => .error e
    match found with
    | .ok found =>
      let mark := if f.has 'n' && !several then [] else [if f.has 'z' then '\x00' else '\n']
      write (found.toList ++ mark)
    | .error e => if f.has 'v' then deploreFile text e else finish 1

/-- Writes the paths that texts lead to. -/
def realpath (args : List String) : Act Unit := do
  let f ← options {
    letters := "eLmPqsz"
    names := [("canonicalize-existing", 'e', .nothing), ("canonicalize-missing", 'm', .nothing),
      ("logical", 'L', .nothing), ("physical", 'P', .nothing), ("quiet", 'q', .nothing),
      ("strip", 's', .nothing), ("no-symlinks", 's', .nothing), ("zero", 'z', .nothing),
      ("relative-to", 'r', .value), ("relative-base", 'b', .value)] } args
  if f.operands.isEmpty then misuse "missing operand"
  let presence := match f.last? ['e', 'm'] with
    | some 'e' => Presence.all
    | some _ => .none
    | none => .allButLast
  let s ← get
  let place := fun (text : String) =>
    if f.has 's' then
      let start := if text.startsWith "/" then [] else s.folder
      Except.ok ((Path.names text).foldl (fun (path : Path) name =>
        if name = "" || name = "." then path
        else if name = ".." then path.dropLast else path ++ [name]) start)
    else realPath s presence text
  let base := ((f.value? 'b').bind fun text => (place text).toOption)
  let origin := ((f.value? 'r').bind fun text => (place text).toOption).or base
  forAll f.operands fun text => do
    match place text with
    | .ok path =>
      let near := base.all fun base => base.isPrefixOf path
      let told := match origin with
        | some folder => if near then relativeText folder path else pathText path
        | none => pathText path
      writeMarked (f.has 'z') [told]
    | .error e =>
      if f.has 'q' then finish 1
      else deplore ((if text.isEmpty then "''" else shown text) ++ ": " ++ e.reason)

end RemoteAttach.Tool
