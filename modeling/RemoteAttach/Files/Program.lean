import RemoteAttach.Files.Tree
import RemoteAttach.Text.Bytes

/-! Programs in a tree of files: how a file says which program runs it, and how a bare name is
looked for in the folders of a search path. -/

namespace RemoteAttach

/-- A program of the system, with the arguments that stand before those of its caller. -/
structure Program where
  /-- The name of the program in the system. -/
  name : String
  /-- The text that it is called by. -/
  called : String
  args : List String := []
  deriving DecidableEq, Repr

namespace Program

/-- The number of bytes of a file that the system looks at for an interpreter. -/
def lookedAt : Nat := 256

/-- The interpreter that the first line of a file names, and its argument if it has one. A zero ends
the line too, and then the name may be empty, and what stands after a blank is an argument even if
that is empty. A name that may be longer than what the system looks at is none. -/
def interpreter? (content : ByteArray) : Option (String × Option String) :=
  match (content.extract 0 lookedAt).toList with
  | 0x23 :: 0x21 :: bytes =>
    let isSpace := fun c => c = ' ' || c = '\t'
    let trimEnd := fun (text : List Char) => (text.reverse.dropWhile isSpace).reverse
    let shown := Text.ofBytes (bytes.takeWhile (· ≠ 0))
    let line := shown.takeWhile (· ≠ '\n')
    let hasEnd := line.length < shown.length
    let isFull := shown.length + 2 = lookedAt && !hasEnd
    let line := if hasEnd then trimEnd line
      else if isFull then trimEnd line.dropLast
      else line
    let line := line.dropWhile isSpace
    let name := line.takeWhile fun c => !isSpace c
    let after := line.drop name.length
    let isCut := isFull && !(shown.dropWhile isSpace).any isSpace
    if (name.isEmpty && (hasEnd || isFull)) || isCut then none
    else
      some (String.ofList name,
        if after.isEmpty then none else some (String.ofList (after.dropWhile isSpace)))
  | _ => none

/-- The first line of a file as far as a shell looks at it before it takes the file for a script. -/
def firstLine (limit : Nat) (content : ByteArray) : List UInt8 :=
  (content.extract 0 limit).toList.takeWhile (· ≠ 10)

/-- The smaller shell takes a file for a script: there are no control characters in its first line
but blanks and those that change how letters are shown. -/
def isScript (content : ByteArray) : Bool :=
  (firstLine 128 content).all fun b => 32 ≤ b && b ≠ 127 || 9 ≤ b && b ≤ 15 || b = 27

/-- The larger shell takes a file for a script: it is no program of the system, and there are no
zeros in its first line. -/
def isRichScript (content : ByteArray) : Bool :=
  content.extract 0 4 != ⟨#[127, 69, 76, 70]⟩ && !(firstLine 80 content).contains 0

/-- The number of files that the system follows from one to its interpreter, with the program at
the end. -/
def maxInterpreters : Nat := 6

end Program

namespace FileTree

/-- The program that runs the file where a text leads to, through `depth` interpreters at most. -/
def programFrom (tree : FileTree) (folder : Path) : Nat → String → Except FileError Program
  | 0, _ => .error .tooManyLinks
  | depth + 1, text => do
    match ← tree.stat folder text with
    | .folder _ | .sink | .zeros | .link _ => .error .permissionDenied
    | .program name => .ok { name, called := text }
    | .file content mode =>
      if mode &&& Node.runBits = 0 then .error .permissionDenied
      else match Program.interpreter? content with
      | none => .error .notExecutable
      | some (interpreter, argument) =>
        if interpreter.isEmpty then throw .permissionDenied
        let program ← tree.programFrom folder depth interpreter
        .ok { program with args := program.args ++ argument.toList ++ [text] }

/-- The program that runs the file where a text leads to. -/
def programAt (tree : FileTree) (folder : Path) (text : String) : Except FileError Program :=
  if text.contains '\x00' then .error .zeroByte
  else tree.programFrom folder Program.maxInterpreters text

/-- The texts that a name may stand for: itself if it holds a solidus, and otherwise that name in
each folder of a search path. An empty folder is the one that is current. -/
def candidates (searchPath name : String) : List String :=
  if name.contains '/' then [name]
  else (Text.pieces [':'] searchPath.toList).map fun folder =>
    if folder.isEmpty then name else String.ofList folder ++ "/" ++ name

/-- The first of some texts that leads to a program. A text that leads nowhere is passed over, and
so is one that is not permitted, but that is told in the end. -/
def firstProgram (tree : FileTree) (folder : Path) (refusal : FileError) :
    List String → Except (String × FileError) Program
  | [] => .error ("", refusal)
  | text :: rest =>
    match tree.programAt folder text with
    | .ok program => .ok program
    | .error .notFound | .error .notDirectory => tree.firstProgram folder refusal rest
    | .error .permissionDenied => tree.firstProgram folder .permissionDenied rest
    | .error e => .error (text, e)

/-- The program that a name leads to along a search path, or the text that is refused and why. -/
def programNamed (tree : FileTree) (folder : Path) (searchPath name : String) :
    Except (String × FileError) Program :=
  tree.firstProgram folder .notFound (candidates searchPath name)

end FileTree

end RemoteAttach
