import RemoteAttach.Files.Tree
import RemoteAttach.Text.Bytes

/-! What the streams of a process lead to: files, inputs and buffers. Streams with different
numbers, also in different processes, may share a channel, and then share its place too. -/

namespace RemoteAttach.Shell

/-- What a stream leads to. -/
inductive Channel where
  /-- What is left of an input, and whether it can be wound back. -/
  | source (rest : List Char) (winds : Bool)
  /-- What has been written, the last piece first, and the room that is left if it is limited. -/
  | buffer (pieces : List (List Char)) (room : Option Nat)
  /-- A file with the place of the next character; with `appends` that is its end. -/
  | file (path : Path) (offset : Nat) (appends : Bool)
  | folder
  | sink
  | zeros

/-- The number of characters that a pipe takes before its reader is taken for gone. -/
def pipeRoom : Nat := 3000000

/-- The room in a pipe that a text takes. A short text takes as much as a longer one, so that also a
writer of many short texts comes to an end. -/
def roomFor (text : List Char) : Nat :=
  max 20 text.length

/-- The number of characters that stand for an input without end. -/
def endless : Nat := 100000

namespace Channel

/-- What has been written to a buffer. -/
def written : Channel → List Char
  | buffer pieces _ => pieces.reverse.flatten
  | _ => []

/-- What is left to read. -/
def rest (files : FileTree) : Channel → List Char
  | source rest _ => rest
  | file path offset _ =>
    match files.lookup path with
    | some (.file content _) => (Text.ofContent content).drop offset
    | _ => []
  | zeros => List.replicate endless '\x00'
  | buffer .. | folder | sink => []

/-- The channel after some characters have been read. -/
def advance (count : Nat) : Channel → Channel
  | source rest winds => source (rest.drop count) winds
  | file path offset appends => file path (offset + count) appends
  | other => other

/-- The channel may be wound back to a place before. -/
def winds : Channel → Bool
  | source _ winds => winds
  | file .. => true
  | _ => false

end Channel

/-- How an attempt to write ends. -/
inductive WriteEnd where
  | done
  /-- The stream is not open, or not for writing. -/
  | closed
  /-- There is no room. -/
  | full
  deriving DecidableEq

/-- The content of a file with a text written at some place. -/
def overwritten (content : ByteArray) (offset : Nat) (text : List Char) : ByteArray :=
  if offset = content.size then content ++ Text.toContent text
  else
    let before := content.extract 0 offset
    let gap : ByteArray := ⟨Array.replicate (offset - content.size) 0⟩
    let after := content.extract (offset + text.length) content.size
    before ++ gap ++ Text.toContent text ++ after

/-- The channel and the files after a text has been written. -/
def Channel.write (files : FileTree) (text : List Char) :
    Channel → Channel × FileTree × WriteEnd
  | .buffer pieces none => (.buffer (text :: pieces) none, files, .done)
  | .buffer pieces (some room) =>
    if room < roomFor text then (.buffer (text.take room :: pieces) (some 0), files, .full)
    else (.buffer (text :: pieces) (some (room - roomFor text)), files, .done)
  | .file path offset appends =>
    match files.lookup path with
    | some (.file content mode) =>
      let offset := if appends then content.size else offset
      let entry := .alone path (.file (overwritten content offset text) mode)
      (.file path (offset + text.length) appends, files.replace entry, .done)
    | _ => (.file path offset appends, files, .done)
  | .sink => (.sink, files, .done)
  | .zeros => (.zeros, files, .done)
  | other => (other, files, .closed)

end RemoteAttach.Shell
