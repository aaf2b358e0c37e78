import RemoteAttach.Tool.Tree

/-! Files that stand in the way of new ones and are kept under another name: the old one with a
suffix, or with a number. -/

namespace RemoteAttach.Tool

open Shell Act

/-- A tree with what stands at a path, and below it, at another path. -/
def movedTo (files : FileTree) (start aim : Path) : FileTree :=
  ⟨files.entries.map fun entry =>
    if start.isPrefixOf entry.path then
      { entry with path := aim ++ entry.path.drop start.length }
    else entry⟩

/-- How files in the way are kept. -/
inductive Backup where
  /-- They are not. -/
  | none
  | simple (suffix : String)
  | numbered
  /-- With a number if one of them has one, or else with a suffix. -/
  | existing (suffix : String)
  deriving DecidableEq, Repr

namespace Backup

/-- The groups of words for the methods. -/
def methods : List (List String) :=
  [["none", "off"], ["simple", "never"], ["existing", "nil"], ["numbered", "t"]]

/-- The names of the options that say how files are kept. -/
def names : List (String × Char × Takes) :=
  [("backup", 'b', .perhaps), ("suffix", 'S', .value)]

/-- How options and the environment say that files are kept. -/
def ofFound (f : Found) : Act Backup := do
  if !f.has 'b' && !f.has 'S' then pure .none
  else
    let vars := (← get).environment
    let usual := (vars.lookup "SIMPLE_BACKUP_SUFFIX").filter (· ≠ "")
    let suffix := ((f.value? 'S').or usual).getD "~"
    let method ← match (f.values 'b').filter (· ≠ "") with
      | [] =>
        match (vars.lookup "VERSION_CONTROL").filter (· ≠ "") with
        | Option.none => pure 2
        | some text => choose "$VERSION_CONTROL" methods text
      | texts => choose "backup type" methods (texts.getLastD "")
    pure (match method with
      | 0 => .none
      | 1 => .simple suffix
      | 2 => .existing suffix
      | _ => .numbered)

/-- The number in the name of a kept file. -/
def number? (base name : String) : Option Nat :=
  let chars := name.toList
  let start := base.toList ++ ['.', '~']
  if start.isPrefixOf chars && chars.getLast? = some '~' then
    let digits := (chars.drop start.length).dropLast
    if digits.isEmpty || digits.head? = some '0' then Option.none else Text.digitsAfter 10 0 digits
  else Option.none

/-- What is put behind the name of a file that is kept. -/
def ending (b : Backup) (s : State) (path : Path) : String :=
  let base := path.getLastD ""
  let numbers := (s.files.children path.dropLast).filterMap fun entry =>
    number? base (entry.path.getLastD "")
  let next := ".~" ++ toString (numbers.foldl max 0 + 1) ++ "~"
  match b with
  | none => ""
  | simple suffix => suffix
  | numbered => next
  | existing suffix => if numbers.isEmpty then suffix else next

/-- Keeps what stands at a path under another name. The answer is what comes behind its name. -/
def keep (b : Backup) (path : Path) : Act (Option String) := do
  let s ← get
  let ending := b.ending s path
  if b = none || (s.files.lookup path).isNone then pure Option.none
  else
    let spare := path.dropLast ++ [path.getLastD "" ++ ending]
    set { s with files := movedTo (s.files.erase spare) path spare }
    pure (some ending)

end Backup

end RemoteAttach.Tool
