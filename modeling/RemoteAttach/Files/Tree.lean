import RemoteAttach.Files.Error
import RemoteAttach.Text.Split
import RemoteAttach.Text.Utf8

/-! A tree of files, as a list of paths with what stands there. Each operation refuses what the
system refuses, for the same reason: a walk that meets nothing or no folder, a folder read as a
file, a file in the way of a folder. A walk follows the links that it meets. -/

namespace RemoteAttach

/-- The names that lead from the root to a place. -/
abbrev Path := List String

/-- What stands at a place. -/
inductive Node where
  /-- A folder with its permission bits. -/
  | folder (mode : Nat)
  /-- A file with its permission bits. -/
  | file (content : ByteArray) (mode : Nat)
  /-- A link to where its text leads. -/
  | link (target : String)
  /-- A program of the system, which is known by its name. -/
  | program (name : String)
  /-- A file that is always empty and forgets what is written to it. -/
  | sink
  /-- A file without end that holds zeros only. -/
  | zeros

/-- The permission bits of a new file, and of a new program. -/
def Node.usualMode : Nat := 0o644

/-- The permission bits of a file that may be run. -/
def Node.programMode : Nat := 0o755

/-- A new folder. -/
def Node.usualFolder : Node := .folder 0o755

/-- The bits that allow a file to be run. -/
def Node.runBits : Nat := 0o111

/-- What a program of the system holds, as far as a shell can tell that reads it as a script: the
mark of such programs, zeros, and a parenthesis that nothing opens. -/
def Node.programContent : ByteArray :=
  ⟨#[127, 69, 76, 70, 2, 1, 1] ++ Array.replicate 300 0 ++ #[41, 10]⟩

/-- The node is a folder. -/
def Node.isFolder : Node → Bool
  | folder _ => true
  | _ => false

/-- What stands at a path. -/
structure Entry where
  path : Path
  node : Node
  /-- The nanoseconds since its last change, negative for a change in the future. -/
  age : Int
  /-- The number of the set of names that the file has, or zero if this is the only one. -/
  names : Nat := 0

/-- The nanoseconds of a second. -/
def Entry.perSecond : Nat := 1000000000

/-- A file with no other name. -/
def Entry.alone (path : Path) (node : Node) (age : Int := 0) : Entry := { path, node, age }

/-- A tree of files. Its root is a folder that has no entry. -/
structure FileTree where
  entries : List Entry := []

namespace Path

/-- A path in the form of a text: names after solidi. -/
def text (path : Path) : String :=
  String.join (path.map ("/" ++ ·))

/-- The names in the text of a path; some may be empty. -/
def names (text : String) : List String :=
  (Text.pieces ['/'] text.toList).map String.ofList

/-- The names in the text of a path that lead on: those that are neither empty nor a point. -/
def steps (text : String) : List String :=
  (names text).filter fun name => name ≠ "" && name ≠ "."

/-- The names from the root that the text of a path stands for in a folder; the text may begin at the
root itself. -/
def namesFrom (folder : Path) (text : String) : Path :=
  (if text.startsWith "/" then [] else folder) ++ steps text

/-- The text of a path in a directory. -/
def join (directory name : String) : String :=
  if directory.isEmpty then name
  else if directory.endsWith '/' then directory ++ name
  else directory ++ "/" ++ name

/-- The most bytes that a name may have. -/
def maxName : Nat := 255

/-- The most bytes that the text of a path may have. -/
def maxText : Nat := 4095

end Path

namespace FileTree

/-- The most links that a walk follows. -/
def maxLinks : Nat := 40

/-- How a walk that follows no link ends. -/
inductive Walk where
  | reached (path : Path)
  /-- It meets a link in the folder `here`, and has to go on with `rest`. -/
  | met (target : String) (here : Path) (rest : List String)
  | refused (error : FileError)

/-- What stands at a path, if anything does. -/
def lookup (tree : FileTree) (path : Path) : Option Node :=
  if path.isEmpty then some .usualFolder
  else (tree.entries.find? (·.path = path)).map (·.node)

/-- Walks from a path through the given names up to a link. Each name but the last has to lead to a
folder, and an empty name, or a point, stays where it is. A link in the last place is only followed
if that is asked for. -/
def walk (tree : FileTree) (followLast : Bool) (here : Path) : List String → Walk
  | [] => .reached here
  | name :: rest =>
    match tree.lookup here with
    | none => .refused .notFound
    | some (.folder _) =>
      if Path.maxName < name.utf8ByteSize then .refused .nameTooLong
      else if name = "" || name = "." then tree.walk followLast here rest
      else if name = ".." then tree.walk followLast here.dropLast rest
      else
        match tree.lookup (here ++ [name]) with
        | some (.link target) =>
          if rest.isEmpty && !followLast then .reached (here ++ [name])
          else .met target here rest
        | _ => tree.walk followLast (here ++ [name]) rest
    | some _ => .refused .notDirectory

/-- Walks through the given names, and follows as many links as it may. -/
def follow (tree : FileTree) (followLast : Bool) :
    Nat → Path → List String → Except FileError Path
  | 0, _, _ => .error .tooManyLinks
  | links + 1, here, names =>
    match tree.walk followLast here names with
    | .reached path => .ok path
    | .refused e => .error e
    | .met target here rest =>
      tree.follow followLast links (if target.startsWith "/" then [] else here)
        (Path.names target ++ rest)

/-- The path that a text leads to from a folder; nothing needs to stand there. -/
def resolve (tree : FileTree) (folder : Path) (text : String) (followLast : Bool := true) :
    Except FileError Path :=
  if text.contains '\x00' then .error .zeroInName
  else if text.isEmpty then .error .notFound
  else if Path.maxText < text.utf8ByteSize then .error .nameTooLong
  else
    tree.follow followLast (maxLinks + 1) (if text.startsWith "/" then [] else folder)
      (Path.names text)

/-- What stands where a text leads to. -/
def stat (tree : FileTree) (folder : Path) (text : String) (followLast : Bool := true) :
    Except FileError Node := do
  let path ← tree.resolve folder text followLast
  match tree.lookup path with
  | some node => .ok node
  | none => .error .notFound

/-- Something stands where a text leads to. -/
def exists? (tree : FileTree) (folder : Path) (text : String) : Bool :=
  (tree.stat folder text).isOk

/-- A file stands where a text leads to. -/
def isFile (tree : FileTree) (folder : Path) (text : String) : Bool :=
  match tree.stat folder text with
  | .ok (.file ..) | .ok (.program _) => true
  | _ => false

/-- A folder stands where a text leads to. -/
def isFolder (tree : FileTree) (folder : Path) (text : String) : Bool :=
  match tree.stat folder text with
  | .ok (.folder _) => true
  | _ => false

/-- The bytes of the file where a text leads to. A file without end is not read here. -/
def read (tree : FileTree) (folder : Path) (text : String) : Except FileError ByteArray := do
  match ← tree.stat folder text with
  | .folder _ => .error .isDirectory
  | .file content _ => .ok content
  | .program _ => .ok Node.programContent
  | .link _ | .sink | .zeros => .ok .empty

/-- The text of the file where a text leads to. -/
def readText (tree : FileTree) (folder : Path) (text : String) : Except FileError String := do
  match Text.strict? (← tree.read folder text) with
  | some content => .ok content
  | none => .error .notText

/-- The tree with an entry that is new at its path. -/
def add (tree : FileTree) (entry : Entry) : FileTree :=
  ⟨tree.entries ++ [entry]⟩

/-- The set of names that the file at a path has, or zero if that is its only one. -/
def namesAt (tree : FileTree) (path : Path) : Nat :=
  (tree.entries.find? (·.path = path)).elim 0 (·.names)

/-- The entries of the file at a path, under all its names. -/
def entriesOf (tree : FileTree) (path : Path) : List Entry :=
  let names := tree.namesAt path
  tree.entries.filter fun entry => entry.path = path || (names ≠ 0 && entry.names = names)

/-- The first one of the names of the file at a path. -/
def firstName (tree : FileTree) (path : Path) : Path :=
  (tree.entriesOf path).head?.elim path (·.path)

/-- The tree with an entry in the place of what stands at its path, and at the other names of
that. -/
def replace (tree : FileTree) (entry : Entry) : FileTree :=
  let names := tree.namesAt entry.path
  ⟨tree.entries.map fun old =>
    if old.path = entry.path || (names ≠ 0 && old.names = names) then
      { old with node := entry.node, age := entry.age }
    else old⟩

/-- The tree with a further name for the file at a path. -/
def addName (tree : FileTree) (path new : Path) : FileTree :=
  match tree.entries.find? (·.path = path) with
  | none => tree
  | some entry =>
    let names := if entry.names ≠ 0 then entry.names
      else (tree.entries.map (·.names)).foldl max 0 + 1
    ⟨(tree.entries.map fun old => if old.path = path then { old with names } else old) ++
      [{ entry with path := new, names }]⟩

/-- The tree without what stands at a path. -/
def erase (tree : FileTree) (path : Path) : FileTree :=
  ⟨tree.entries.filter (·.path ≠ path)⟩

/-- Makes the folder that names from the root lead to. -/
def makeFolder (tree : FileTree) (names : Path) : Except FileError FileTree := do
  let path ← tree.resolve [] (if names.isEmpty then "/" else names.text) false
  match tree.lookup path with
  | some _ => .error .alreadyExists
  | none => .ok (tree.add (.alone path .usualFolder))

/-- Makes the folder that names from the root lead to, of which the last one comes first, and those
above it as far as they are missing. A folder that is there already is as good as a new one. -/
def makeFoldersAbove (tree : FileTree) : List String → Except FileError FileTree
  | [] => .ok tree
  | name :: above =>
    let names := (name :: above).reverse
    let orOld := fun (tree : FileTree) (e : FileError) =>
      if tree.isFolder [] (Path.text names) then Except.ok tree else .error e
    match tree.makeFolder names with
    | .ok tree => .ok tree
    | .error .notFound => do
      let tree ← tree.makeFoldersAbove above
      match tree.makeFolder names with
      | .ok tree => .ok tree
      | .error e => orOld tree e
    | .error e => orOld tree e

/-- Makes the folder that names from the root lead to, and those above it. -/
def makeFolders (tree : FileTree) (names : Path) : Except FileError FileTree :=
  tree.makeFoldersAbove names.reverse

/-- Puts a file at a path, in the place of the file that may stand there. -/
def put (tree : FileTree) (path : Path) (content : ByteArray) : Except FileError FileTree :=
  match tree.lookup path with
  | some (.folder _) => .error .isDirectory
  | some .sink | some .zeros => .ok tree
  | some (.program _) => .error .permissionDenied
  | some (.link _) => .error .tooManyLinks
  | some (.file _ mode) => .ok (tree.replace (.alone path (.file content mode)))
  | none => .ok (tree.add (.alone path (.file content Node.usualMode)))

/-- The path of the file that is to be written where a text leads to. A text that ends in a solidus
leads to a folder, whatever stands there: only the folder above its last name is looked for, unless
that name is one of those that stand in every folder. -/
def resolveNew (tree : FileTree) (folder : Path) (text : String) : Except FileError Path := do
  let bare := (text.toList.reverse.dropWhile (· = '/')).reverse
  if bare.isEmpty || bare.length = text.length then tree.resolve folder text
  else
    let last := (bare.reverse.takeWhile (· ≠ '/')).reverse
    if last = ['.'] || last = ['.', '.'] then
      let _ ← tree.resolve folder text
    else
      let above := String.ofList (bare.take (bare.length - last.length)) ++ "."
      let _ ← if text.contains '\x00' then .error .zeroInName
        else if Path.maxText < text.utf8ByteSize then .error .nameTooLong
        else tree.resolve folder above
    .error .isDirectory

/-- Writes the file where a text leads to. -/
def write (tree : FileTree) (folder : Path) (text : String) (content : ByteArray) :
    Except FileError FileTree := do
  tree.put (← tree.resolveNew folder text) content

/-- The entries directly in a folder. -/
def children (tree : FileTree) (folder : Path) : List Entry :=
  tree.entries.filter fun entry => entry.path ≠ [] && entry.path.dropLast = folder

end FileTree

end RemoteAttach
