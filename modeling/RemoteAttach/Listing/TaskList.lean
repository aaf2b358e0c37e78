import RemoteAttach.Text.Blank
import RemoteAttach.Text.Numeral
import RemoteAttach.Text.Split
import RemoteAttach.Listing.Entry

/-! Process listings as `tasklist` writes them: a line of quoted fields for each process, of which
the first is its name and the second its id. -/

namespace RemoteAttach.TaskList

open RemoteAttach.Text

/-- The text between a double quote at the beginning and another at the end. -/
def unwrap? : List Char → Option (List Char)
  | '"' :: rest => if rest.getLast? = some '"' then some rest.dropLast else none
  | _ => none

/-- The process of a line. -/
def row? (line : List Char) : Option ProcessEntry := do
  let body ← unwrap? (trim line)
  match pieces ['"', ',', '"'] body with
  | name :: id :: _ =>
    let id ← word32? id
    some ⟨id, String.ofList name, String.ofList name, 0⟩
  | _ => none

/-- The processes of the output of `tasklist`; lines that cannot be read are passed over. -/
def read (output : String) : List ProcessEntry :=
  ((lines output.toList).filterMap row?).take ProcessEntry.maxListed

end RemoteAttach.TaskList
