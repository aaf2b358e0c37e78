import RemoteAttach.Tool.Tree

/-! The program that removes files, and folders with all that is in them. It may ask before each
removal, or once before all of them. -/

namespace RemoteAttach.Tool.Removal

open Shell Act

/-- When it is asked whether something is to be removed. -/
inductive Asking where
  | never
  | once
  | always
  deriving DecidableEq, Repr

/-- How files are removed. -/
structure Form where
  deep : Bool
  emptyFolders : Bool
  tells : Bool
  asking : Asking := .never
  /-- What is not there is passed over. -/
  forgives : Bool := false
  sparesRoot : Bool := true

/-- The form with what an option says of asking. -/
def Form.take (form : Form) (option : Char × String) : Act Form := do
  match option with
  | ('f', _) => pure { form with asking := .never, forgives := true }
  | ('i', _) => pure { form with asking := .always, forgives := false }
  | ('I', _) => pure { form with asking := .once, forgives := false }
  | ('A', "") => pure { form with asking := .always, forgives := false }
  | ('A', text) =>
    match ← choose "--interactive" [["never", "no", "none"], ["once"], ["always", "yes"]] text with
    | 0 => pure { form with asking := .never }
    | 1 => pure { form with asking := .once, forgives := false }
    | _ => pure { form with asking := .always, forgives := false }
  | _ => pure form

/-- The words for what a node is. -/
def kindOf (node : Node) : String :=
  match node with
  | .folder _ => "directory"
  | .link _ => "symbolic link"
  | .sink | .zeros => "character special file"
  | .program _ => "regular file"
  | .file content _ => if content.isEmpty then "regular empty file" else "regular file"

/-- Asks before a removal, if that is wanted. -/
def isWanted (form : Form) (what text : String) : Act Bool :=
  if form.asking = .always then isAgreed (what ++ " " ++ inQuotes text) else pure true

/-- Removes what stands at a path, and all below it, and tells whether nothing has been kept. -/
def removeFrom (form : Form) : Nat → Path → String → Act Bool
  | 0, _, _ => pure false
  | fuel + 1, path, text => do
    let s ← get
    match s.files.lookup path with
    | none => pure true
    | some node =>
      let erase : Act Bool := do
        modify fun s => { s with files := s.files.erase path }
        if form.tells then
          writeLines ["removed " ++ (if node.isFolder then "directory " else "") ++ inQuotes text]
        pure true
      let inside := s.files.children path
      if !node.isFolder || inside.isEmpty then
        if ← isWanted form ("remove " ++ kindOf node) text then erase else pure false
      else if !(← isWanted form "descend into directory" text) then pure false
      else
        let gone ← inside.mapM fun entry =>
          removeFrom form fuel entry.path (text ++ "/" ++ entry.path.getLastD "")
        if !gone.all id then pure false
        else if ← isWanted form "remove directory" text then erase
        else pure false

/-- Removes what an operand leads to. -/
def removeOne (form : Form) (text : String) : Act Unit := do
  let s ← get
  let name := lastName text
  match nodeAt s text false with
  | .error e =>
    if !(form.forgives && (e = .notFound || e = .notDirectory)) then
      deploreDoing "cannot remove" text e
  | .ok (path, node) =>
    let isEmpty := (s.files.children path).isEmpty
    if node.isFolder && !form.deep && !(form.emptyFolders && isEmpty) then
      deploreDoing "cannot remove" text (if form.emptyFolders then .notEmpty else .isDirectory)
    else if node.isFolder && path.isEmpty && form.sparesRoot then
      complain ("it is dangerous to operate recursively on " ++ inQuotes text ++
        (if text = "/" then "" else " (same as '/')"))
      deplore "use --no-preserve-root to override this failsafe"
    else if node.isFolder && (name = "." || name = "..") then
      deplore ("refusing to remove '.' or '..' directory: skipping " ++ inQuotes text)
    else if text.endsWith "/" && (nodeAt s (bareText text) false).toOption.any
        (fun (_, node) => !node.isFolder) then
      deploreDoing "cannot remove" text .notDirectory
    else
      let _ ← removeFrom form (s.files.entries.length + 1) path
        (if node.isFolder then bareText text else text)

/-- Removes files, and folders if that is wanted. -/
def run (args : List String) : Act Unit := do
  let (f, fault) ← optionsSoFar {
    letters := "dfirRvI"
    names := [("dir", 'd', .nothing), ("force", 'f', .nothing), ("recursive", 'r', .nothing),
      ("verbose", 'v', .nothing), ("interactive", 'A', .perhaps), ("preserve-root", 'P', .perhaps),
      ("no-preserve-root", 'N', .nothing), ("one-file-system", 'o', .nothing)] } args
  let form ← f.options.foldlM Form.take {
    deep := f.has 'r' || f.has 'R', emptyFolders := f.has 'd', tells := f.has 'v'
    sparesRoot := f.last? ['P', 'N'] ≠ some 'N' }
  let s ← get
  if let some text := fault then
    complain text
    forAll args fun arg => do
      if arg.startsWith "-" && 1 < arg.length && (nodeAt s arg false).isOk then
        warn ("Try '" ++ s.name ++ " ./" ++ shown arg ++ "' to remove the file " ++ inQuotes arg ++
          ".\n")
    hint
  let count := f.operands.length
  if count = 0 then
    if !form.forgives then misuse "missing operand"
  else
    let words := "remove " ++ toString count ++ (if count = 1 then " argument" else " arguments") ++
      (if form.deep then " recursively" else "")
    let agreed ← if form.asking = .once && (form.deep || 3 < count) then isAgreed words
      else pure true
    if agreed then forAll f.operands (removeOne form)

end RemoteAttach.Tool.Removal
