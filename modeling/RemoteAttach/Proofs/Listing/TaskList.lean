import RemoteAttach.Listing.TaskList
import RemoteAttach.Proofs.Text.Blank
import RemoteAttach.Proofs.Text.Numeral
import RemoteAttach.Proofs.Text.Pieces

/-! Task lists are read back as they were written: a line of quoted fields for each process, with
blanks around it, and blank lines anywhere between. A name may hold commas and blanks, and may be
empty; only a quote would end it. -/

namespace RemoteAttach.TaskList

open RemoteAttach.Text

/-- A row of a task list: the name and the id of a process, further fields, and the blanks around
the line. A carriage return before the newline is one of the blanks after it. -/
structure Row where
  id : UInt32
  name : List Char
  idText : List Char
  more : List (List Char)
  before : List Char
  after : List Char
  id_spelled : Spells 10 id.toNat idText
  name_unquoted : '"' ∉ name
  name_one : '\n' ∉ name
  more_unquoted : ∀ field ∈ more, '"' ∉ field
  more_one : ∀ field ∈ more, '\n' ∉ field
  before_blank : Blanks before
  before_one : '\n' ∉ before
  after_blank : Blanks after
  after_one : '\n' ∉ after

/-- A field between double quotes. -/
def quotedField (field : List Char) : List Char :=
  '"' :: (field ++ ['"'])

namespace Row

/-- The fields of a row. -/
def fields (r : Row) : List (List Char) :=
  r.name :: r.idText :: r.more

/-- The line of a row: its fields in quotes, with commas between. -/
def text (r : Row) : List Char :=
  r.before ++ List.intercalate [','] (r.fields.map quotedField) ++ r.after

/-- The process of a row. Its command line is not known, so that its name stands for it. -/
def entry (r : Row) : ProcessEntry where
  id := r.id
  name := String.ofList r.name
  commandLine := String.ofList r.name
  flags := 0

theorem idText_solid (r : Row) : Solid r.idText :=
  r.id_spelled.solid (by decide) (by decide)

/-- A numeral has no quotes. -/
theorem idText_unquoted (r : Row) : '"' ∉ r.idText := by
  intro there
  have value := r.id_spelled.digitsAfter (by decide) (by decide)
  obtain ⟨digit, read⟩ := exists_digit_of_digitsAfter value '"' there
  exact absurd read (by simp [digit?])

theorem fields_unquoted (r : Row) : ∀ field ∈ r.fields, '"' ∉ field := by
  simpa [fields] using ⟨r.name_unquoted, r.idText_unquoted, r.more_unquoted⟩

theorem fields_one (r : Row) : ∀ field ∈ r.fields, '\n' ∉ field := by
  have id_one : '\n' ∉ r.idText := fun there => absurd (r.idText_solid _ there) (by decide)
  simpa [fields] using ⟨r.name_one, id_one, r.more_one⟩

end Row

/-- Quoted fields with commas between are one pair of quotes around the fields with `","` between. -/
theorem intercalate_quotedField (field : List Char) (more : List (List Char)) :
    List.intercalate [','] ((field :: more).map quotedField) =
      quotedField (List.intercalate ['"', ',', '"'] (field :: more)) := by
  induction more generalizing field with
  | nil => simp [quotedField]
  | cons next more ih =>
    rw [List.map_cons, List.map_cons, List.intercalate_cons_cons, ← List.map_cons, ih next,
      List.intercalate_cons_cons]
    simp [quotedField]

theorem unwrap?_quotedField (field : List Char) : unwrap? (quotedField field) = some field := by
  simp [unwrap?, quotedField]

namespace Row

/-- What is left of a line without its blanks and outer quotes. -/
theorem unwrap?_trim_text (r : Row) :
    unwrap? (trim r.text) = some (List.intercalate ['"', ',', '"'] r.fields) := by
  have quote : isBlank '"' = false := by decide
  have whole : List.intercalate [','] (r.fields.map quotedField) =
      quotedField (List.intercalate ['"', ',', '"'] r.fields) := intercalate_quotedField ..
  have trimmed : trim (List.intercalate [','] (r.fields.map quotedField)) =
      List.intercalate [','] (r.fields.map quotedField) := by
    rw [whole]
    exact trim_between quote quote _
  rw [text, trim_padded trimmed r.before_blank r.after_blank, whole, unwrap?_quotedField]

/-- No field holds a quote, so that each ends where the separator begins. -/
theorem pieces_fields (r : Row) :
    pieces ['"', ',', '"'] (List.intercalate ['"', ',', '"'] r.fields) = r.fields :=
  pieces_intercalate_of_notMem (List.cons_ne_nil _ _) r.fields_unquoted

/-- A row is read as its process. -/
theorem row?_text (r : Row) : TaskList.row? r.text = some r.entry := by
  simp only [TaskList.row?, r.unwrap?_trim_text, Option.bind_eq_bind, Option.bind_some,
    r.pieces_fields]
  simp only [fields, r.id_spelled.word32?, Option.bind_some, entry]

/-- A row is one line. -/
theorem text_one (r : Row) : '\n' ∉ r.text := by
  have parts : ∀ field ∈ r.fields.map quotedField, '\n' ∉ field := by
    intro quoted there
    obtain ⟨field, inside, rfl⟩ := List.mem_map.mp there
    simpa [quotedField] using r.fields_one field inside
  have middle : '\n' ∉ List.intercalate [','] (r.fields.map quotedField) :=
    notMem_intercalate (by decide) parts
  simp [text, r.before_one, middle, r.after_one]

end Row

/-- A line of a task list: a row, or blanks. -/
inductive Line where
  | row (row : Row)
  | blank (text : List Char) (blank : Blanks text) (one : '\n' ∉ text)

namespace Line

/-- The text of a line. -/
def text : Line → List Char
  | .row r => r.text
  | .blank text _ _ => text

/-- The row that a line is, if it is one. -/
def row? : Line → Option Row
  | .row r => some r
  | .blank _ _ _ => none

theorem text_one (l : Line) : '\n' ∉ l.text := by
  cases l with
  | row r => exact r.text_one
  | blank text blank one => exact one

theorem row?_text (l : Line) : TaskList.row? l.text = l.row?.map Row.entry := by
  cases l with
  | row r => exact r.row?_text
  | blank text blank one => simp [TaskList.row?, Line.text, Line.row?, blank.trim, unwrap?]

end Line

theorem skipsLineEnds_row? : SkipsLineEnds TaskList.row? :=
  .of_trim rfl fun line other same => by simp only [TaskList.row?, same]

/-- A task list is read as the processes of its rows, in order and up to the greatest number
listed. -/
theorem read_rows (ended : Bool) (table : List Line) :
    read (String.ofList (joined ended (table.map Line.text))) =
      ((table.filterMap Line.row?).map Row.entry).take 10000 := by
  have one : ∀ line ∈ table.map Line.text, '\n' ∉ line := by
    intro line there
    obtain ⟨l, -, rfl⟩ := List.mem_map.mp there
    exact l.text_one
  have each : TaskList.row? ∘ Line.text = fun l => l.row?.map Row.entry := funext Line.row?_text
  rw [read, String.toList_ofList, skipsLineEnds_row?.filterMap_joined ended one,
    List.filterMap_map, each, ← List.map_filterMap]
  rfl

/-- A name with a comma, an empty name, an id with a zero before it, and a line end of two
characters. -/
theorem read_rows_commas :
    let first : Row := {
      id := 12, name := "a, b".toList, idText := "12".toList, more := [[], "9,1 K".toList]
      before := [], after := ['\r']
      id_spelled := ⟨0, by decide +kernel⟩, name_unquoted := by decide, name_one := by decide
      more_unquoted := by decide, more_one := by decide
      before_blank := by simp [Blanks], before_one := by decide
      after_blank := by simp [Blanks]; decide, after_one := by decide }
    let second : Row := {
      id := 7, name := [], idText := "07".toList, more := [], before := [' '], after := []
      id_spelled := ⟨1, by decide +kernel⟩, name_unquoted := by decide, name_one := by decide
      more_unquoted := by decide, more_one := by decide
      before_blank := by simp [Blanks]; decide, before_one := by decide
      after_blank := by simp [Blanks], after_one := by decide }
    let table : List Line :=
      [.row first, .blank ['\r'] (by simp [Blanks]; decide) (by decide), .row second]
    let text := "\"a, b\",\"12\",\"\",\"9,1 K\"\r\n\r\n \"\",\"07\""
    String.ofList (joined false (table.map Line.text)) = text ∧
      read text = [⟨12, "a, b", "a, b", 0⟩, ⟨7, "", "", 0⟩] := by
  intro first second table text
  have written : String.ofList (joined false (table.map Line.text)) = text := by decide +kernel
  have rows := read_rows false table
  rw [written] at rows
  exact ⟨written, rows⟩

end RemoteAttach.TaskList
