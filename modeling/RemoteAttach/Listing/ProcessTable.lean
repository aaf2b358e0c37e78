import RemoteAttach.Text.Blank
import RemoteAttach.Text.Numeral
import RemoteAttach.Listing.Entry

/-! Process tables as `ps` writes them: a header that gives the place and width of the program
column, and a row for each process with its id, flags, program and command line. -/

namespace RemoteAttach.ProcessTable

open RemoteAttach.Text

/-- The width that is asked for the program column. Paths there may hold blanks, so that a row is
cut by position. -/
def programWidth : Nat := 256

/-- The columns asked of `ps`. Only the program column has a title, whose length fixes its
width. -/
def format : String :=
  "pid=,flags=,comm=" ++ String.ofList (List.replicate programWidth 'c') ++ ",args="

/-- The place and width of the program column, counted in characters. -/
structure Column where
  start : Nat
  width : Nat
  deriving DecidableEq, Repr

/-- The column that a header locates: it holds one title and nothing else but blanks. -/
def Column.ofHeader? (header : List Char) : Option Column :=
  let title := trim header
  if title.isEmpty || title.any isBlank then none
  else some ⟨(header.takeWhile isBlank).length, title.length⟩

/-- The part of a path after its last solidus. -/
def baseName (path : List Char) : List Char :=
  (path.reverse.takeWhile (· ≠ '/')).reverse

/-- The process of a row. The first two words before the program column are its id and flags; what
follows the column is its command line, and an empty one is the program itself. -/
def Column.row? (column : Column) (line : List Char) : Option ProcessEntry :=
  let rest := line.drop column.start
  let program := trim (rest.take column.width)
  let args := trim (rest.drop column.width)
  if program.isEmpty then none
  else match words (line.take column.start) with
    | id :: flags :: _ => do
      let id ← word32? id
      let flags ← hexWord64? flags
      some ⟨id, String.ofList (baseName program),
        String.ofList (if args.isEmpty then program else args), flags⟩
    | _ => none

/-- The processes of a table that is given by its lines. The first line that is not blank is the
header, and rows that cannot be read are passed over. -/
def ofLines (lines : List (List Char)) : List ProcessEntry :=
  match lines.dropWhile (fun line => (trim line).isEmpty) with
  | [] => []
  | header :: rows =>
    match Column.ofHeader? header with
    | none => []
    | some column => (rows.filterMap column.row?).take ProcessEntry.maxListed

/-- The processes of the output of `ps`. -/
def read (output : String) : List ProcessEntry :=
  ofLines (lines output.toList)

end RemoteAttach.ProcessTable
