import Mathlib.Data.List.Forall2
import RemoteAttach.Proofs.Listing.Remote
import RemoteAttach.Proofs.Listing.TaskList
import RemoteAttach.Proofs.Settings.Fields

/-! Texts whose lines end in a carriage return and a newline are read like those whose lines end in
a newline alone: process tables, listings behind a pipe, task lists and settings files. -/

namespace RemoteAttach

namespace Text

/-- The text with a carriage return before every newline. -/
def withReturns (text : List Char) : List Char :=
  text.flatMap fun c => if c = '\n' then ['\r', '\n'] else [c]

theorem withReturns_of_notMem {text : List Char} (one : '\n' ∉ text) : withReturns text = text := by
  induction text with
  | nil => rfl
  | cons c text ih =>
    simp only [List.mem_cons, not_or] at one
    rw [withReturns, List.flatMap_cons, if_neg (Ne.symm one.1)]
    exact congrArg (c :: ·) (ih one.2)

/-- The first line of a text gets a carriage return. -/
theorem withReturns_append_newline {line : List Char} (one : '\n' ∉ line) (rest : List Char) :
    withReturns (line ++ '\n' :: rest) = (line ++ ['\r']) ++ '\n' :: withReturns rest := by
  have front : withReturns (line ++ '\n' :: rest) = withReturns line ++ withReturns ('\n' :: rest) :=
    List.flatMap_append
  rw [front, withReturns_of_notMem one]
  simp [withReturns]

/-- Two lines are the same but for a carriage return that may end the first one. -/
def SameLine (line other : List Char) : Prop :=
  other = line ∨ other = chomp line

theorem SameLine.trim {line other : List Char} (same : SameLine line other) :
    Text.trim line = Text.trim other := by
  rcases same with rfl | rfl
  · rfl
  · exact (trim_chomp line).symm

/-- Carriage returns before the newlines of a text are taken off with them. What stood before a
newline is kept then, also if it ends in a carriage return. -/
theorem lines_withReturns (text : List Char) :
    List.Forall₂ SameLine (lines (withReturns text)) (lines text) := by
  -- The scan holds the part of the first line that it has seen, in reverse.
  suffices general : ∀ line,
      List.Forall₂ SameLine (linesAfter line (withReturns text)) (linesAfter line text) from
    general []
  induction text with
  | nil =>
    intro line
    exact List.forall₂_same.mpr fun line _ => .inl rfl
  | cons c text ih =>
    intro line
    by_cases newline : c = '\n'
    · subst newline
      have ended : linesAfter line (withReturns ('\n' :: text)) =
          line.reverse :: linesAfter [] (withReturns text) := by
        simp [withReturns, linesAfter, dropReturn]
      rw [ended, linesAfter, if_pos rfl]
      refine .cons (.inr ?_) (ih [])
      rw [chomp, List.reverse_reverse]
    · have kept : withReturns (c :: text) = c :: withReturns text := by
        simp [withReturns, newline]
      rw [kept, linesAfter, linesAfter, if_neg newline, if_neg newline]
      exact ih (c :: line)

theorem SkipsLineEnds.filterMap_congr {α : Type} {read : List Char → Option α}
    (skips : SkipsLineEnds read) {texts others : List (List Char)}
    (same : List.Forall₂ SameLine texts others) :
    texts.filterMap read = others.filterMap read := by
  induction same with
  | nil => rfl
  | @cons line other texts others first _ ih =>
    have alike : read line = read other := by
      rcases first with rfl | rfl
      · rfl
      · exact (skips.same line).symm
    rw [List.filterMap_cons, List.filterMap_cons, alike, ih]

end Text

open RemoteAttach.Text

/-! ### Listings -/

namespace ProcessTable

/-- A header locates the program column whatever ends its line. -/
theorem Column.ofHeader?_congr {header other : List Char} (same : SameLine header other) :
    Column.ofHeader? header = Column.ofHeader? other := by
  have title := same.trim
  by_cases blank : Blanks other
  · simp [Column.ofHeader?, title, blank.trim]
  · have start : header.takeWhile isBlank = other.takeWhile isBlank := by
      rcases same with rfl | rfl
      · rfl
      · obtain ⟨blanks, -, whole⟩ := exists_chomp_append header
        conv_lhs => rw [whole]
        rw [List.takeWhile_append, if_neg]
        intro all
        refine blank fun c there => ?_
        rw [← (List.takeWhile_prefix isBlank).eq_of_length all] at there
        exact List.mem_takeWhile_imp there
    simp only [Column.ofHeader?, title, start]

theorem ofLines_congr {table others : List (List Char)}
    (same : List.Forall₂ SameLine table others) : ofLines table = ofLines others := by
  induction same with
  | nil => rfl
  | @cons line other table others first rest ih =>
    by_cases blank : Blanks line
    · have blank' : Blanks other := trim_eq_nil_iff.mp (first.trim ▸ blank.trim)
      rw [ofLines_blank blank, ofLines_blank blank', ih]
    · have kept : (trim line).isEmpty = false := by simpa using mt trim_eq_nil_iff.mp blank
      have kept' : (trim other).isEmpty = false := first.trim ▸ kept
      have rows (column : Column) := column.skipsLineEnds_row?.filterMap_congr rest
      rw [ofLines, ofLines, List.dropWhile_cons_of_neg (by simp [kept]),
        List.dropWhile_cons_of_neg (by simp [kept'])]
      simp only [Column.ofHeader?_congr first, rows]

end ProcessTable

/-- The system that `uname` names does not depend on what ends its line. -/
theorem RemoteOs.ofText_append_return (uname : List Char) :
    RemoteOs.ofText (String.ofList (uname ++ ['\r'])) = RemoteOs.ofText (String.ofList uname) := by
  have blank : Blanks ['\r'] := by simp [Blanks, isBlank]
  simp only [RemoteOs.ofText, trimmed, String.toList_ofList, blank.trim_append]

theorem RemoteListing.read_withReturns (text : String) :
    RemoteListing.read (String.ofList (withReturns text.toList)) = RemoteListing.read text := by
  by_cases there : '\n' ∈ text.toList
  · obtain ⟨uname, table, whole, one⟩ := List.eq_append_cons_of_mem there
    have one' : '\n' ∉ uname ++ ['\r'] := by simpa using one
    have cut := cutAt_append one' (withReturns table)
    rw [RemoteListing.read, RemoteListing.read, String.toList_ofList, whole,
      withReturns_append_newline one, cut, cutAt_append one]
    simp only [RemoteOs.ofText_append_return,
      ProcessTable.ofLines_congr (lines_withReturns table)]
  · rw [withReturns_of_notMem there, String.ofList_toList]

/-! ### All readers of lines -/

/-- Every text that is read line by line gives the same with a carriage return before each of its
newlines: the processes of a table, the system and the processes behind a pipe, the processes of a
task list, and the settings after a settings file. -/
theorem read_eq_of_withReturns (text : String) :
    let returned := String.ofList (withReturns text.toList)
    ProcessTable.read returned = ProcessTable.read text ∧
      RemoteListing.read returned = RemoteListing.read text ∧
      TaskList.read returned = TaskList.read text ∧
      ∀ s : Settings, s.read returned = s.read text := by
  have same := lines_withReturns text.toList
  refine ⟨?_, RemoteListing.read_withReturns text, ?_, fun s => Settings.eq_of_get fun f => ?_⟩
  · rw [ProcessTable.read, ProcessTable.read, String.toList_ofList, ProcessTable.ofLines_congr same]
  · rw [TaskList.read, TaskList.read, String.toList_ofList,
      TaskList.skipsLineEnds_row?.filterMap_congr same]
  · rw [Settings.get_read, Settings.get_read, String.toList_ofList,
      (Settings.skipsLineEnds_sets? f).filterMap_congr same]

end RemoteAttach
