import Mathlib.Data.List.Basic
import Mathlib.Data.List.TakeWhile
import RemoteAttach.Listing.Remote
import RemoteAttach.Proofs.Text.Blank
import RemoteAttach.Proofs.Text.Numeral
import RemoteAttach.Proofs.Text.Pieces

/-! The output of the listing script and what is read from it: every row of the process table gives
its process, in order, whatever stands in its columns and between the rows. -/

namespace RemoteAttach

open RemoteAttach.Text

namespace ProcessTable

/-! ### Lines of a table -/

namespace Column

/-- A line without a program is passed over. -/
theorem row?_of_blanks (column : Column) {line : List Char}
    (blank : Blanks (line.drop column.start)) : column.row? line = none := by
  have program : Blanks ((line.drop column.start).take column.width) := fun c there =>
    blank c (List.mem_of_mem_take there)
  simp [Column.row?, program.trim]

/-- Blanks at the end of a line are not looked at. -/
theorem row?_append_blanks (column : Column) {blanks : List Char} (blank : Blanks blanks)
    (line : List Char) : column.row? (line ++ blanks) = column.row? line := by
  have part (n : Nat) : Blanks (blanks.drop n) := fun c there => blank c (List.mem_of_mem_drop there)
  -- Blanks behind a line that does not reach the column may reach it, but hold no program.
  by_cases short : line.length ≤ column.start
  · have behind : line.drop column.start = [] := List.drop_eq_nil_of_le short
    rw [column.row?_of_blanks, column.row?_of_blanks]
    · simp [behind, Blanks]
    · rw [List.drop_append, behind]
      exact part _
  · have reached : column.start ≤ line.length := Nat.le_of_not_le short
    have padded (n : Nat) : Blanks (blanks.take n) := fun c there =>
      blank c (List.mem_of_mem_take there)
    simp only [Column.row?, List.drop_append_of_le_length reached,
      List.take_append_of_le_length reached, List.take_append, List.drop_append,
      (padded _).trim_append, (part _).trim_append]

theorem skipsLineEnds_row? (column : Column) : SkipsLineEnds column.row? where
  empty := column.row?_of_blanks (by simp [Blanks])
  same line := by
    obtain ⟨blanks, blank, whole⟩ := exists_chomp_append line
    have same := column.row?_append_blanks blank (chomp line)
    rwa [← whole, eq_comm] at same

end Column

/-- A row of a process table: the id and the flags before the program column, the program in it, and
the arguments after it. -/
structure Row (column : Column) where
  id : UInt32
  flags : UInt64
  program : List Char
  args : List Char
  idText : List Char
  flagsText : List Char
  /-- The spaces before the id, between id and flags, and after the flags. -/
  lead : Nat
  gap : Nat
  trail : Nat
  id_spelled : Spells 10 id.toNat idText
  flags_spelled : Spells 16 flags.toNat flagsText
  gap_pos : 0 < gap
  head_length : lead + idText.length + gap + flagsText.length + trail = column.start
  program_some : program ≠ []
  program_trimmed : trim program = program
  program_one : '\n' ∉ program
  program_fits : program.length ≤ column.width
  args_trimmed : trim args = args
  args_one : '\n' ∉ args

namespace Row

variable {column : Column}

/-- What stands before the program column. -/
def head (r : Row column) : List Char :=
  List.replicate r.lead ' ' ++ (r.idText ++ (List.replicate r.gap ' ' ++
    (r.flagsText ++ List.replicate r.trail ' ')))

/-- What stands in the program column. -/
def middle (r : Row column) : List Char :=
  r.program ++ List.replicate (column.width - r.program.length) ' '

/-- What stands after the program column. -/
def tail (r : Row column) : List Char :=
  if r.args = [] then [] else ' ' :: r.args

/-- The line of a row. -/
def text (r : Row column) : List Char :=
  r.head ++ (r.middle ++ r.tail)

/-- The process of a row. Its name is the last part of the path of its program, and a process
without arguments has the program for its command line. -/
def entry (r : Row column) : ProcessEntry where
  id := r.id
  name := String.ofList ((r.program.splitOn '/').getLastD [])
  commandLine := String.ofList (if r.args = [] then r.program else r.args)
  flags := r.flags

theorem head_length_eq (r : Row column) : r.head.length = column.start := by
  have := r.head_length
  simp only [head, List.length_append, List.length_replicate]
  omega

theorem middle_length (r : Row column) : r.middle.length = column.width := by
  have := r.program_fits
  simp only [middle, List.length_append, List.length_replicate]
  omega

theorem take_start (r : Row column) : r.text.take column.start = r.head := by
  rw [text, List.take_left' r.head_length_eq]

theorem drop_start (r : Row column) : r.text.drop column.start = r.middle ++ r.tail := by
  rw [text, List.drop_left' r.head_length_eq]

/-- Before the program column stand two words. -/
theorem words_head (r : Row column) : words r.head = [r.idText, r.flagsText] := by
  have gap : List.replicate r.gap ' ' ≠ [] := by
    simp [Nat.pos_iff_ne_zero.mp r.gap_pos]
  have id_solid := r.id_spelled.solid (by decide) (by decide)
  have flags_solid := r.flags_spelled.solid (by decide) (by decide)
  rw [head, words_blanks_append (Blanks.replicate_space _), words_append_blanks id_solid
    r.id_spelled.ne_nil (Blanks.replicate_space _) _ (.inl gap)]
  have last := words_append_blanks flags_solid r.flags_spelled.ne_nil
    (Blanks.replicate_space r.trail) [] (.inr rfl)
  rw [List.append_nil] at last
  rw [last]
  rfl

theorem trim_middle (r : Row column) : trim r.middle = r.program := by
  exact trim_padded_right r.program_trimmed
    (Blanks.replicate_space (column.width - r.program.length))

theorem trim_tail (r : Row column) : trim r.tail = r.args := by
  rw [tail]
  split
  · rename_i none_
    rw [none_]
    rfl
  · exact trim_padded_left r.args_trimmed (Blanks.replicate_space 1)

/-- The part of a path after its last solidus is its last part. -/
theorem baseName_eq (path : List Char) : baseName path = (path.splitOn '/').getLastD [] := by
  by_cases there : '/' ∈ path
  · obtain ⟨name, folder, cut, free⟩ := List.eq_append_cons_of_mem (List.mem_reverse.mpr there)
    have whole : path = folder.reverse ++ '/' :: name.reverse := by
      simpa using congrArg List.reverse cut
    have kept : (path.reverse.takeWhile (· ≠ '/')) = name := by
      rw [cut, List.takeWhile_append_of_pos (by simpa using fun c h => ne_of_mem_of_not_mem h free)]
      simp
    have last : name.reverse.splitOn '/' = [name.reverse] :=
      List.splitOn_eq_singleton (by simpa using free)
    rw [baseName, kept, whole, List.splitOn_append_cons_self, last, List.getLastD_concat]
  · have all : ∀ c ∈ path.reverse, decide (c ≠ '/') = true := by
      simpa using fun c h => ne_of_mem_of_not_mem h there
    have kept : path.reverse.takeWhile (fun c => decide (c ≠ '/')) = path.reverse :=
      List.takeWhile_eq_self_iff.mpr all
    rw [baseName, kept, List.reverse_reverse, List.splitOn_eq_singleton there]
    rfl

/-- A row is read as its process. -/
theorem row?_text (r : Row column) : column.row? r.text = some r.entry := by
  have program : (trim (r.middle ++ r.tail |>.take column.width)) = r.program := by
    rw [List.take_left' r.middle_length, r.trim_middle]
  have args : (trim (r.middle ++ r.tail |>.drop column.width)) = r.args := by
    rw [List.drop_left' r.middle_length, r.trim_tail]
  have there : r.program.isEmpty = false := by simp [r.program_some]
  simp only [Column.row?, r.drop_start, r.take_start, program, args, there, r.words_head,
    r.id_spelled.word32?, r.flags_spelled.hexWord64?, entry, baseName_eq]
  simp

/-- A row is one line. -/
theorem text_one (r : Row column) : '\n' ∉ r.text := by
  have id_one : '\n' ∉ r.idText := fun there =>
    absurd (r.id_spelled.solid (by decide) (by decide) _ there) (by decide)
  have flags_one : '\n' ∉ r.flagsText := fun there =>
    absurd (r.flags_spelled.solid (by decide) (by decide) _ there) (by decide)
  have tail_one : '\n' ∉ r.tail := by
    rw [tail]
    split
    · exact List.not_mem_nil
    · simpa using r.args_one
  simp [text, head, middle, id_one, flags_one, tail_one, r.program_one]

end Row

/-- A line of a process table after its header: a row, or one that does not reach the program
column. -/
inductive Line (column : Column) where
  | row (row : Row column)
  | short (text : List Char) (one : '\n' ∉ text) (fits : text.length ≤ column.start)

namespace Line

variable {column : Column}

/-- The text of a line. -/
def text : Line column → List Char
  | .row r => r.text
  | .short text _ _ => text

/-- The row that a line is, if it is one. -/
def row? : Line column → Option (Row column)
  | .row r => some r
  | .short _ _ _ => none

theorem text_one (l : Line column) : '\n' ∉ l.text := by
  cases l with
  | row r => exact r.text_one
  | short text one fits => exact one

theorem row?_text (l : Line column) : column.row? l.text = l.row?.map Row.entry := by
  cases l with
  | row r => exact r.row?_text
  | short text one fits =>
    exact column.row?_of_blanks (by simp [Line.text, List.drop_eq_nil_of_le fits, Blanks])

/-- The rows of a table are read in order, and nothing else is. -/
theorem filterMap_lines (ended : Bool) (table : List (Line column)) :
    (lines (joined ended (table.map text))).filterMap column.row? =
      (table.filterMap row?).map Row.entry := by
  have one : ∀ line ∈ table.map text, '\n' ∉ line := by
    intro line there
    obtain ⟨l, -, rfl⟩ := List.mem_map.mp there
    exact l.text_one
  have each : column.row? ∘ text = fun l => l.row?.map Row.entry := funext row?_text
  rw [column.skipsLineEnds_row?.filterMap_joined ended one, List.filterMap_map, each,
    ← List.map_filterMap]

end Line

/-- A title behind spaces is found where it stands. -/
theorem Column.ofHeader?_title {column : Column} {title : List Char} (some_ : title ≠ [])
    (solid : Solid title) (width : title.length = column.width) :
    Column.ofHeader? (List.replicate column.start ' ' ++ title) = some column := by
  have trimmed := trim_padded_left solid.trim (Blanks.replicate_space column.start)
  have start : (List.replicate column.start ' ' ++ title).takeWhile isBlank =
      List.replicate column.start ' ' := by
    cases title with
    | nil => exact absurd rfl some_
    | cons c title =>
      rw [List.takeWhile_append_of_pos (Blanks.replicate_space _),
        List.takeWhile_cons_of_neg (by simp [solid c List.mem_cons_self]), List.append_nil]
  have one : (title.isEmpty || title.any isBlank) = false := by
    simpa [some_, Solid] using solid
  rw [Column.ofHeader?, trimmed, start, one, List.length_replicate, width]
  rfl

/-- Blank lines before the header are passed over. -/
theorem ofLines_blank {line : List Char} (blank : Blanks line) (rest : List (List Char)) :
    ofLines (line :: rest) = ofLines rest := by
  simp [ofLines, blank.trim]

theorem ofLines_header {column : Column} {title : List Char} (some_ : title ≠ [])
    (solid : Solid title) (width : title.length = column.width) (rest : List (List Char)) :
    ofLines ((List.replicate column.start ' ' ++ title) :: rest) =
      (rest.filterMap column.row?).take ProcessEntry.maxListed := by
  have trimmed := trim_padded_left solid.trim (Blanks.replicate_space column.start)
  have kept : (trim (List.replicate column.start ' ' ++ title)).isEmpty = false := by
    simp [trimmed, some_]
  rw [ofLines, List.dropWhile_cons_of_neg (by simp [kept])]
  simp only [Column.ofHeader?_title some_ solid width]

end ProcessTable

namespace RemoteListing

open RemoteAttach.ProcessTable

/-- The output of the listing script: the line of `uname`, blank lines, the header with the title of
the program column, and the lines of the table. -/
structure Output where
  uname : List Char
  uname_one : '\n' ∉ uname
  blanks : List (List Char)
  blanks_one : ∀ line ∈ blanks, '\n' ∉ line
  blanks_blank : ∀ line ∈ blanks, Blanks line
  column : Column
  title : List Char
  title_some : title ≠ []
  title_solid : Solid title
  title_width : title.length = column.width
  lines : List (Line column)
  /-- The last line ends in a newline. -/
  ended : Bool

namespace Output

/-- The header of the table. -/
def header (o : Output) : List Char :=
  List.replicate o.column.start ' ' ++ o.title

/-- The text of the output. -/
def text (o : Output) : List Char :=
  o.uname ++ '\n' :: joined o.ended (o.blanks ++ o.header :: o.lines.map Line.text)

/-- The rows of the table. -/
def rows (o : Output) : List (Row o.column) :=
  o.lines.filterMap Line.row?

theorem header_one (o : Output) : '\n' ∉ o.header := by
  have title_one : '\n' ∉ o.title := fun there =>
    absurd (o.title_solid _ there) (by decide)
  simp [header, title_one]

theorem chomp_header (o : Output) : chomp o.header = o.header := by
  refine chomp_eq_self fun last => ?_
  rw [header, List.getLast?_append_of_ne_nil _ o.title_some] at last
  exact absurd (o.title_solid _ (List.mem_of_getLast? last)) (by decide)

/-- The header and the lines after it are read as the processes of the rows. -/
theorem ofLines_table (o : Output) :
    ProcessTable.ofLines (Text.lines (joined o.ended (o.header :: o.lines.map Line.text))) =
      (o.rows.map Row.entry).take 10000 := by
  have table := Line.filterMap_lines o.ended o.lines
  have first : Text.lines (joined o.ended (o.header :: o.lines.map Line.text)) =
      o.header :: Text.lines (joined o.ended (o.lines.map Line.text)) := by
    rcases lines_joined_cons o.header_one o.ended (o.lines.map Line.text) with h | h | ⟨empty, -⟩
    · rw [h, o.chomp_header]
    · exact h
    · rw [header, List.append_eq_nil_iff] at empty
      exact absurd empty.2 o.title_some
  rw [first, header, ofLines_header o.title_some o.title_solid o.title_width, table]
  rfl

/-- Blank lines before a table change nothing. -/
theorem ofLines_blanks (ended : Bool) {blanks : List (List Char)}
    (one : ∀ line ∈ blanks, '\n' ∉ line) (blank : ∀ line ∈ blanks, Blanks line)
    (table : List (List Char)) :
    ProcessTable.ofLines (Text.lines (joined ended (blanks ++ table))) =
      ProcessTable.ofLines (Text.lines (joined ended table)) := by
  induction blanks with
  | nil => rfl
  | cons line blanks ih =>
    have one := List.forall_mem_cons.mp one
    have blank := List.forall_mem_cons.mp blank
    have chomped : Blanks (chomp line) := fun c there => blank.1 c (chomp_subset line there)
    rw [List.cons_append, ← ih one.2 blank.2]
    rcases lines_joined_cons one.1 ended (blanks ++ table) with h | h | ⟨-, h⟩
    · rw [h, ofLines_blank chomped]
    · rw [h, ofLines_blank blank.1]
    · rw [h]

end Output

/-- The output of the listing script is read as the system that `uname` names and the processes of
the rows, in order and up to the greatest number listed. -/
theorem read_text (o : Output) :
    read (String.ofList o.text) =
      ⟨.ofText (String.ofList o.uname), (o.rows.map Row.entry).take 10000⟩ := by
  have cut : cutAt '\n' o.text = some (o.uname,
      joined o.ended (o.blanks ++ o.header :: o.lines.map Line.text)) :=
    cutAt_append o.uname_one _
  rw [read, String.toList_ofList, cut]
  simp only [Output.ofLines_blanks o.ended o.blanks_one o.blanks_blank, o.ofLines_table]

/-- A program in a folder with a blank in its name, one that fills its column and has no arguments,
and a line that does not reach that column. -/
theorem read_text_paths :
    let column : Column := ⟨8, 8⟩
    let server : Row column := {
      id := 7, flags := 0x24000, program := "/a b/srv".toList, args := []
      idText := "7".toList, flagsText := "24000".toList, lead := 0, gap := 1, trail := 1
      id_spelled := ⟨0, by decide +kernel⟩, flags_spelled := ⟨0, by decide +kernel⟩
      gap_pos := by decide, head_length := by decide, program_some := by decide
      program_trimmed := by decide, program_one := by decide, program_fits := by decide
      args_trimmed := by decide, args_one := by decide }
    let shell : Row column := {
      id := 12, flags := 0xA, program := "sh".toList, args := "sh -c 'a  b'".toList
      idText := "012".toList, flagsText := "A".toList, lead := 1, gap := 2, trail := 1
      id_spelled := ⟨1, by decide +kernel⟩, flags_spelled := ⟨0, by decide +kernel⟩
      gap_pos := by decide, head_length := by decide, program_some := by decide
      program_trimmed := by decide, program_one := by decide, program_fits := by decide
      args_trimmed := by decide, args_one := by decide }
    let output : Output := {
      uname := "Darwin".toList, uname_one := by decide
      blanks := [[], [' ']], blanks_one := by decide, blanks_blank := by simp [Blanks]; decide
      column, title := "CCCCCCCC".toList, title_some := by decide
      title_solid := by simp [Solid]; decide, title_width := by decide
      lines := [.row server, .short "  99".toList (by decide) (by decide), .row shell]
      ended := true }
    let text := "Darwin\n\n \n        CCCCCCCC\n7 24000 /a b/srv\n  99\n" ++
      " 012  A sh       sh -c 'a  b'\n"
    String.ofList output.text = text ∧
      read text =
        ⟨.darwin, [⟨7, "srv", "/a b/srv", 0x24000⟩, ⟨12, "sh", "sh -c 'a  b'", 0xA⟩]⟩ := by
  intro column server shell output text
  have written : String.ofList output.text = text := by decide +kernel
  have listing := read_text output
  rw [written] at listing
  exact ⟨written, listing.trans (by decide +kernel)⟩

end RemoteListing

end RemoteAttach
