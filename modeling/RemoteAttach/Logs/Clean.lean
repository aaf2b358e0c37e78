import RemoteAttach.Files.Facts

/-! Cleaning the log folder: log files that are older than they may be are deleted, and all else
stays. The names in the folder are taken one after the other. -/

namespace RemoteAttach

/-- The part of a file name after its last point. A name whose only point begins it has none. -/
def extension? (name : String) : Option String :=
  let after := name.toList.reverse.takeWhile (· ≠ '.')
  let before := name.toList.reverse.drop (after.length + 1)
  if after.length = name.toList.length || before.isEmpty then none
  else some (String.ofList after.reverse)

/-- The seconds in the given hours. -/
def retentionSeconds (hours : UInt32) : UInt64 :=
  hours.toUInt64 * 3600

namespace FileTree

/-- The nanoseconds since the last change of what a text leads to. There are none for a change in
the future. -/
def age? (tree : FileTree) (start : Path) (text : String) : Option Nat := do
  let facts ← (tree.facts start text).toOption
  if facts.age < 0 then none else some facts.age.toNat

/-- Removes the file that a text leads to, or the link that it names. A folder is not removed as a
file. -/
def removeFile (tree : FileTree) (start : Path) (text : String) : Except FileError FileTree := do
  let path ← tree.resolve start text false
  match tree.lookup path with
  | none => .error .notFound
  | some (.folder _) => .error .isDirectory
  | some _ => .ok (tree.erase path)

/-- The names in the folder that a text leads to. -/
def readFolder (tree : FileTree) (start : Path) (text : String) :
    Except FileError (List String) := do
  let path ← tree.resolve start text
  match tree.lookup path with
  | none => .error .notFound
  | some (.folder _) => .ok ((tree.children path).filterMap (·.path.getLast?))
  | some _ => .error .notDirectory

/-- Removes what has a name in a folder if it has the extension `log` and is older than the given
hours, and counts it if that succeeds. -/
def cleanName (hours : UInt32) (start : Path) (text : String) (state : FileTree × UInt32)
    (name : String) : FileTree × UInt32 :=
  let (tree, deleted) := state
  let place := Path.join text name
  if extension? name ≠ some "log" then (tree, deleted)
  else if (tree.age? start place).any
      ((retentionSeconds hours).toNat * Entry.perSecond < ·) then
    match tree.removeFile start place with
    | .ok tree => (tree, deleted + 1)
    | .error _ => (tree, deleted)
  else (tree, deleted)

/-- Deletes the expired logs among some names in a folder, one after the other, and gives their
number. -/
def cleanNames (tree : FileTree) (start : Path) (text : String) (hours : UInt32)
    (names : List String) : FileTree × UInt32 :=
  names.foldl (cleanName hours start text) (tree, 0)

/-- Deletes the expired logs directly in the folder that a text leads to, and gives their number.
If the text leads nowhere there are none. -/
def cleanLogs (tree : FileTree) (start : Path) (text : String) (hours : UInt32) :
    Except FileError (FileTree × UInt32) := do
  if tree.exists? start text then
    .ok (tree.cleanNames start text hours (← tree.readFolder start text))
  else .ok (tree, 0)

end FileTree

end RemoteAttach
