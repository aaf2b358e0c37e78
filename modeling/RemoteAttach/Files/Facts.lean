import RemoteAttach.Files.Tree

/-! What the system tells about a file without reading it. -/

namespace RemoteAttach

/-- The kinds of files. -/
inductive FileKind where
  | regular
  | folder
  | link
  | pipe
  | device
  deriving DecidableEq, Repr

/-- What is known about a file. -/
structure FileFacts where
  kind : FileKind
  path : Path
  size : Nat
  /-- Its permission bits. -/
  mode : Nat
  /-- The nanoseconds since its last change. -/
  age : Int

namespace FileFacts

/-- The facts about an entry of a tree. -/
def ofEntry (entry : Entry) : FileFacts :=
  match entry.node with
  | .folder mode => ⟨.folder, entry.path, 4096, mode, entry.age⟩
  | .file content mode => ⟨.regular, entry.path, content.size, mode, entry.age⟩
  | .link target => ⟨.link, entry.path, target.utf8ByteSize, 0o777, entry.age⟩
  | .program _ => ⟨.regular, entry.path, 40000, 0o755, entry.age⟩
  | .sink | .zeros => ⟨.device, entry.path, 0, 0o666, entry.age⟩

/-- The age of the files of the system. -/
def systemAge : Int := 1000000000 * Entry.perSecond

/-- A file of this kind may be run, or entered. -/
def isExecutable (facts : FileFacts) : Bool :=
  facts.kind = .folder || facts.mode &&& Node.runBits != 0

end FileFacts

/-- The facts about the file where a text leads to. -/
def FileTree.facts (tree : FileTree) (folder : Path) (text : String) (followLast : Bool := true) :
    Except FileError FileFacts := do
  let path ← tree.resolve folder text followLast
  if path.isEmpty then .ok ⟨.folder, [], 4096, 0o755, FileFacts.systemAge⟩
  else
    match tree.entries.find? (·.path = path) with
    | some entry => .ok (.ofEntry entry)
    | none => .error .notFound

end RemoteAttach
