import RemoteAttach.Listing.ProcessTable
import RemoteAttach.Proofs.Text.Blank
import RemoteAttach.Proofs.Text.Numeral

/-! Rows of a process table and the fields of their lines. A row is cut where its header says that
the program column begins. The id before the cut is a whole field, but the flags may go on behind
it: then the row is read with what stands before the cut for its flags. -/

namespace RemoteAttach.ProcessTable

open RemoteAttach.Text

/-! ### Fields of a line -/

/-- The first two fields of a line, its id and its flags, and what stands around them. -/
structure Fields (line : List Char) where
  lead : List Char
  id : List Char
  gap : List Char
  flags : List Char
  rest : List Char
  whole : line = lead ++ (id ++ (gap ++ (flags ++ rest)))
  lead_blank : Blanks lead
  id_solid : Solid id
  id_some : id ≠ []
  gap_blank : Blanks gap
  gap_some : gap ≠ []
  flags_solid : Solid flags
  flags_some : flags ≠ []
  rest_apart : ∀ c ∈ rest.head?, isBlank c = true

namespace Fields

variable {line : List Char}

/-- The place where the flags begin. -/
def flagsStart (f : Fields line) : Nat :=
  f.lead.length + f.id.length + f.gap.length

/-- The place where the flags have ended. -/
def flagsStop (f : Fields line) : Nat :=
  f.flagsStart + f.flags.length

/-- The words of a line whose second one goes on for some characters. -/
theorem words_append (f : Fields line) {second rest : List Char} (solid : Solid second)
    (some_ : second ≠ []) (apart : ∀ c ∈ rest.head?, isBlank c = true) :
    words (f.lead ++ (f.id ++ (f.gap ++ (second ++ rest)))) = f.id :: second :: words rest := by
  rw [words_blanks_append f.lead_blank,
    words_append_blanks f.id_solid f.id_some f.gap_blank _ (.inl f.gap_some),
    words_append_of_head? solid some_ apart]

theorem words_line (f : Fields line) : words line = f.id :: f.flags :: words f.rest := by
  conv_lhs => rw [f.whole]
  exact f.words_append f.flags_solid f.flags_some f.rest_apart

/-- A line of two words has two fields. -/
theorem nonempty_of_two_le (two : 2 ≤ (words line).length) : Nonempty (Fields line) := by
  obtain ⟨id, flags, more, found⟩ : ∃ id flags more, words line = id :: flags :: more := by
    match h : words line with
    | [] | [_] => simp [h] at two
    | id :: flags :: more => exact ⟨id, flags, more, rfl⟩
  obtain ⟨lead, rest, lead_blank, id_solid, id_some, apart, whole, later⟩ :=
    exists_of_words_eq_cons found
  obtain ⟨gap, rest', gap_blank, flags_solid, flags_some, rest_apart, whole', -⟩ :=
    exists_of_words_eq_cons later
  have gap_some : gap ≠ [] := by
    rintro rfl
    obtain ⟨c, flags, rfl⟩ := List.exists_cons_of_ne_nil flags_some
    have blank := apart c (by simp [whole'])
    simp [flags_solid c List.mem_cons_self] at blank
  exact ⟨⟨lead, id, gap, flags, rest', by rw [whole, whole'], lead_blank, id_solid, id_some,
    gap_blank, gap_some, flags_solid, flags_some, rest_apart⟩⟩

/-- What stands before the flags is one word at most. -/
theorem length_words_take_le_one (f : Fields line) {n : Nat} (before : n ≤ f.flagsStart) :
    (words (line.take n)).length ≤ 1 := by
  have front : line.take n = f.lead.take n ++ (f.id.take (n - f.lead.length) ++
      f.gap.take (n - f.lead.length - f.id.length)) := by
    have short : n - f.lead.length - f.id.length - f.gap.length = 0 := by
      simp only [flagsStart] at before
      omega
    conv_lhs => rw [f.whole]
    simp only [List.take_append, short, Nat.zero_sub, List.take_zero, List.append_nil]
  rw [front]
  exact length_words_le_one (fun c there => f.lead_blank c (List.mem_of_mem_take there))
    (fun c there => f.id_solid c (List.mem_of_mem_take there))
    fun c there => f.gap_blank c (List.mem_of_mem_take there)

/-- What stands before a place behind the beginning of the flags is the id, and the flags as far as
they reach up to there. -/
theorem words_take (f : Fields line) {n : Nat} (behind : f.flagsStart < n) :
    words (line.take n) =
      f.id :: f.flags.take (n - f.flagsStart) :: words (f.rest.take (n - f.flagsStop)) := by
  have front : line.take n = f.lead ++ (f.id ++ (f.gap ++
      (f.flags.take (n - f.flagsStart) ++ f.rest.take (n - f.flagsStop)))) := by
    have start : f.lead.length + f.id.length + f.gap.length < n := behind
    have passed : n - f.lead.length - f.id.length - f.gap.length = n - f.flagsStart := by
      simp only [flagsStart]
      omega
    have stop : n - f.flagsStart - f.flags.length = n - f.flagsStop := by
      simp only [flagsStop]
      omega
    conv_lhs => rw [f.whole]
    simp only [List.take_append, passed, stop]
    rw [List.take_of_length_le (by omega), List.take_of_length_le (by omega),
      List.take_of_length_le (by omega)]
  rw [front]
  refine f.words_append (fun c there => f.flags_solid c (List.mem_of_mem_take there)) ?_ ?_
  · have some_ := f.flags_some
    simp only [ne_eq, List.take_eq_nil_iff, not_or]
    exact ⟨by omega, some_⟩
  · intro c there
    refine f.rest_apart c ?_
    rw [List.head?_take] at there
    split at there
    · exact absurd there (by simp)
    · exact there

end Fields

/-! ### Rows -/

namespace Column

variable {line : List Char}

/-- A line is no row if the program column begins before its flags do. -/
theorem row?_eq_none_of_le (column : Column) (f : Fields line)
    (before : column.start ≤ f.flagsStart) : column.row? line = none := by
  have few := f.length_words_take_le_one before
  simp only [row?]
  split
  · rfl
  · split
    · rename_i two
      simp [two] at few
    · rfl

/-- A line is read as a process exactly if it has an id, flags that begin before the program column,
as far as they reach up to there, and a program in the column. -/
theorem row?_eq_some_iff (column : Column) (line : List Char) (entry : ProcessEntry) :
    column.row? line = some entry ↔
      ∃ f : Fields line, f.flagsStart < column.start ∧ word32? f.id = some entry.id ∧
        hexWord64? (f.flags.take (column.start - f.flagsStart)) = some entry.flags ∧
        let program := trim ((line.drop column.start).take column.width)
        let args := trim ((line.drop column.start).drop column.width)
        program ≠ [] ∧ entry.name = String.ofList (baseName program) ∧
          entry.commandLine = String.ofList (if args.isEmpty then program else args) := by
  constructor
  · intro read
    have two : 2 ≤ (words line).length := by
      have more := length_words_le_append (line.take column.start) (line.drop column.start)
      rw [List.take_append_drop] at more
      refine Nat.le_trans ?_ more
      simp only [row?] at read
      split at read
      · exact absurd read (by simp)
      · split at read
        · rename_i found
          simp [found]
        · exact absurd read (by simp)
    obtain ⟨f⟩ := Fields.nonempty_of_two_le two
    have behind : f.flagsStart < column.start := by
      by_contra before
      rw [column.row?_eq_none_of_le f (Nat.le_of_not_lt before)] at read
      exact absurd read (by simp)
    simp only [row?, f.words_take behind] at read
    split at read
    · exact absurd read (by simp)
    · rename_i program
      obtain ⟨id, id_read, read⟩ := Option.bind_eq_some_iff.mp read
      obtain ⟨flags, flags_read, read⟩ := Option.bind_eq_some_iff.mp read
      obtain rfl := Option.some.inj read
      exact ⟨f, behind, id_read, flags_read, by simpa using program, rfl, rfl⟩
  · rintro ⟨f, behind, id_read, flags_read, program, name, commandLine⟩
    simp only [row?, f.words_take behind]
    rw [if_neg (by simpa using program)]
    simp only [id_read, flags_read, Option.bind_eq_bind, Option.bind_some, ← name, ← commandLine]

end Column

/-- The id and the flags of a process are the values of the first two words of a line. -/
def IsWhole (line : List Char) (entry : ProcessEntry) : Prop :=
  ∃ id flags more, words line = id :: flags :: more ∧ word32? id = some entry.id ∧
    hexWord64? flags = some entry.flags

instance IsWhole.decidable (line : List Char) (entry : ProcessEntry) :
    Decidable (IsWhole line entry) :=
  match found : words line with
  | id :: flags :: more =>
    decidable_of_iff (word32? id = some entry.id ∧ hexWord64? flags = some entry.flags)
      (by simp [IsWhole, found])
  | [] | [_] => isFalse (by simp [IsWhole, found])

theorem isWhole_iff {line : List Char} (f : Fields line) (entry : ProcessEntry) :
    IsWhole line entry ↔ word32? f.id = some entry.id ∧ hexWord64? f.flags = some entry.flags := by
  simp [IsWhole, f.words_line]

/-- A process that is read from a line has the values of the first two words of that line exactly if
the flags end before the program column begins, or if zeros are cut off from a zero. -/
theorem Column.isWhole_iff_of_row? (column : Column) {line : List Char} {entry : ProcessEntry}
    {f : Fields line} (id_read : word32? f.id = some entry.id)
    (flags_read : hexWord64? (f.flags.take (column.start - f.flagsStart)) = some entry.flags)
    (behind : f.flagsStart < column.start) :
    IsWhole line entry ↔ f.flagsStop ≤ column.start ∨
      entry.flags = 0 ∧ ∀ c ∈ f.flags.drop (column.start - f.flagsStart), c = '0' := by
  have cut := hexWord64?_append_eq_iff flags_read (f.flags.drop (column.start - f.flagsStart))
  rw [List.take_append_drop] at cut
  have ended : f.flags.drop (column.start - f.flagsStart) = [] ↔ f.flagsStop ≤ column.start := by
    rw [List.drop_eq_nil_iff, Fields.flagsStop]
    omega
  rw [isWhole_iff f, cut, ended]
  exact and_iff_right id_read

/-! ### Listings -/

/-- The output of a listing has a header, its first line that is not blank, which locates the
program column. -/
def IsHeaded (output : String) (column : Column) (rows : List (List Char)) : Prop :=
  ∃ blanks header, lines output.toList = blanks ++ header :: rows ∧
    (∀ line ∈ blanks, Blanks line) ∧ ¬ Blanks header ∧ Column.ofHeader? header = some column

/-- Processes are read from the rows of a listing that has a header. -/
theorem exists_row?_of_mem_read {output : String} {entry : ProcessEntry}
    (there : entry ∈ read output) :
    ∃ column rows, IsHeaded output column rows ∧ ∃ line ∈ rows, column.row? line = some entry := by
  rw [read, ofLines] at there
  split at there
  · exact absurd there List.not_mem_nil
  · rename_i header rows found
    split at there
    · exact absurd there List.not_mem_nil
    · rename_i column located
      obtain ⟨line, inside, read⟩ := List.mem_filterMap.mp (List.mem_of_mem_take there)
      refine ⟨column, rows, ⟨(lines output.toList).takeWhile fun line => (trim line).isEmpty, header,
        ?_, ?_, ?_, located⟩, line, inside, read⟩
      · rw [← found, List.takeWhile_append_dropWhile]
      · intro line inside
        exact trim_eq_nil_iff.mp (by simpa using List.mem_takeWhile_imp inside)
      · intro blank
        have stop := List.head?_dropWhile_not (fun line => (trim line).isEmpty) (lines output.toList)
        simp [found, blank.trim] at stop

/-- A process is read from a line of a listing, at the column that its header locates. The id is the
first field of the line, and the flags are the second one up to the column. -/
structure IsReadFrom (output : String) (entry : ProcessEntry) (column : Column) {line : List Char}
    (f : Fields line) : Prop where
  headed : ∃ rows, IsHeaded output column rows ∧ line ∈ rows
  row : column.row? line = some entry
  id : word32? f.id = some entry.id
  behind : f.flagsStart < column.start
  flags : hexWord64? (f.flags.take (column.start - f.flagsStart)) = some entry.flags

/-- Every process of a listing is read from a line after the header, and has the values of the first
two words of that line exactly if the second one ends before the program column begins, or if only
zeros of a zero are cut off. No process is read from a line whose second word does not even begin
before the column. -/
theorem read_isWhole_iff {output : String} {entry : ProcessEntry} (there : entry ∈ read output) :
    (∃ column line, ∃ f : Fields line, IsReadFrom output entry column f ∧
      (IsWhole line entry ↔ f.flagsStop ≤ column.start ∨
        entry.flags = 0 ∧ ∀ c ∈ f.flags.drop (column.start - f.flagsStart), c = '0')) ∧
      ∀ (column : Column) (line : List Char) (f : Fields line),
        column.start ≤ f.flagsStart → column.row? line = none := by
  refine ⟨?_, fun column line f => column.row?_eq_none_of_le f⟩
  obtain ⟨column, rows, headed, line, inside, read⟩ := exists_row?_of_mem_read there
  obtain ⟨f, behind, id_read, flags_read, -⟩ := (column.row?_eq_some_iff line entry).mp read
  exact ⟨column, line, f, ⟨⟨rows, headed, inside⟩, read, id_read, behind, flags_read⟩,
    column.isWhole_iff_of_row? id_read flags_read behind⟩

/-- A zero is cut off from flags of two zeros. -/
theorem read_isWhole_iff_zeros :
    let output := "       ccccc\n 12  4 sh   -c\n  3   00 b\n"
    let entry : ProcessEntry := ⟨3, "0 b", "0 b", 0⟩
    entry ∈ read output ∧ (∃ line ∈ lines output.toList, IsWhole line entry) ∧
      ∃ column line, ∃ f : Fields line, IsReadFrom output entry column f ∧
        (IsWhole line entry ↔ f.flagsStop ≤ column.start ∨
          entry.flags = 0 ∧ ∀ c ∈ f.flags.drop (column.start - f.flagsStart), c = '0') := by
  intro output entry
  have there : entry ∈ read output := by decide +kernel
  exact ⟨there, by decide +kernel, (read_isWhole_iff there).1⟩

/-- The column of a short header begins inside the flags of a row. They lose two digits, and with
them the mark of code for another kind of processor; the digits come back as the program. -/
theorem read_not_isWhole_cut :
    let output := "      ccc\n 1 24004 app --x\n"
    read output = [⟨1, "04", "app --x", 0x240⟩] ∧
      ¬ ∀ entry ∈ read output, ∃ line ∈ lines output.toList, IsWhole line entry := by
  decide +kernel

end RemoteAttach.ProcessTable
