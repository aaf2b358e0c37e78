import Mathlib.Data.List.DropRight
import Mathlib.Data.List.TakeWhile
import RemoteAttach.Text.Blank

/-! Laws of trimming, words and lines: padding a trimmed text and trimming it gives the text, words
that blanks divide are found one by one, and so are lines that newlines end. -/

namespace RemoteAttach.Text

/-- No printable ASCII character but the space is blank. -/
theorem isBlank_of_printable {c : Char} (low : 0x21 ≤ c.toNat) (high : c.toNat ≤ 0x7E) :
    isBlank c = false := by
  simp only [isBlank, Bool.or_eq_false_iff, Bool.and_eq_false_iff, decide_eq_false_iff_not,
    beq_eq_false_iff_ne]
  omega

/-- A text of blanks. -/
def Blanks (text : List Char) : Prop :=
  ∀ c ∈ text, isBlank c = true

/-- A text without blanks. -/
def Solid (text : List Char) : Prop :=
  ∀ c ∈ text, isBlank c = false

theorem Blanks.replicate_space (count : Nat) : Blanks (List.replicate count ' ') := by
  intro c there
  rw [List.eq_of_mem_replicate there]
  rfl

/-! ### Trimming -/

theorem Blanks.trimStart_append {blanks : List Char} (h : Blanks blanks) (text : List Char) :
    trimStart (blanks ++ text) = trimStart text :=
  List.dropWhile_append_of_pos h

theorem Blanks.trimEnd_append {blanks : List Char} (h : Blanks blanks) (text : List Char) :
    trimEnd (text ++ blanks) = trimEnd text := by
  have reversed : ∀ c ∈ blanks.reverse, isBlank c = true := fun c there =>
    h c (List.mem_reverse.mp there)
  rw [trimEnd, trimEnd, List.reverse_append, List.dropWhile_append_of_pos reversed]

theorem Blanks.trim {blanks : List Char} (h : Blanks blanks) : trim blanks = [] := by
  have front := h.trimStart_append []
  rw [List.append_nil] at front
  rw [Text.trim, front]
  rfl

/-- A text that trimming leaves alone is left alone at each of its two ends. -/
theorem trim_eq_self {text : List Char} (trimmed : trim text = text) :
    trimStart text = text ∧ trimEnd text = text := by
  have front : trimStart text <:+ text := List.dropWhile_suffix _
  have back : (trimEnd (trimStart text)).length ≤ (trimStart text).length := by
    rw [trimEnd, List.length_reverse]
    simpa using (List.dropWhile_suffix isBlank : _ <:+ (trimStart text).reverse).length_le
  have whole : (trimEnd (trimStart text)).length = text.length := congrArg List.length trimmed
  have start : trimStart text = text :=
    front.eq_of_length (by have := front.length_le; omega)
  refine ⟨start, ?_⟩
  rw [trim, start] at trimmed
  exact trimmed

theorem trim_padded {text before after : List Char} (trimmed : trim text = text)
    (h1 : Blanks before) (h2 : Blanks after) : trim (before ++ text ++ after) = text := by
  obtain ⟨start, stop⟩ := trim_eq_self trimmed
  rw [trim, List.append_assoc, h1.trimStart_append]
  cases text with
  | nil => exact h2.trim
  | cons c text =>
    have solid : ¬ isBlank c = true := by
      intro blank
      have shorter : (trimStart (c :: text)).length ≤ text.length := by
        rw [trimStart, List.dropWhile_cons_of_pos blank]
        exact (List.dropWhile_suffix _).length_le
      rw [start, List.length_cons] at shorter
      omega
    rw [trimStart, List.cons_append, List.dropWhile_cons_of_neg solid, ← List.cons_append,
      h2.trimEnd_append, stop]

theorem trim_padded_left {text before : List Char} (trimmed : trim text = text)
    (h : Blanks before) : trim (before ++ text) = text := by
  have none_ : Blanks [] := fun _ there => nomatch there
  simpa using trim_padded trimmed h none_

theorem trim_padded_right {text after : List Char} (trimmed : trim text = text)
    (h : Blanks after) : trim (text ++ after) = text := by
  have none_ : Blanks [] := fun _ there => nomatch there
  simpa using trim_padded trimmed none_ h

theorem Solid.trim {text : List Char} (solid : Solid text) : trim text = text := by
  have front : trimStart text = text := by
    cases text with
    | nil => rfl
    | cons c text =>
      exact List.dropWhile_cons_of_neg (by simp [solid c List.mem_cons_self])
  have back : text.reverse.dropWhile isBlank = text.reverse := by
    cases reversed : text.reverse with
    | nil => rfl
    | cons c rest =>
      have there : c ∈ text := List.mem_reverse.mp (reversed ▸ List.mem_cons_self)
      exact List.dropWhile_cons_of_neg (by simp [solid c there])
  rw [Text.trim, front, trimEnd, back, List.reverse_reverse]

/-- A text is its leading blanks and what is left without them. -/
theorem exists_append_trimStart (text : List Char) :
    ∃ blanks, Blanks blanks ∧ text = blanks ++ trimStart text := by
  refine ⟨text.takeWhile isBlank, fun c there => ?_, List.takeWhile_append_dropWhile.symm⟩
  exact List.mem_takeWhile_imp there

/-- A text is what is left without its trailing blanks, and those. -/
theorem exists_trimEnd_append (text : List Char) :
    ∃ blanks, Blanks blanks ∧ text = trimEnd text ++ blanks := by
  obtain ⟨blanks, blank, whole⟩ := exists_append_trimStart text.reverse
  refine ⟨blanks.reverse, fun c there => blank c (List.mem_reverse.mp there), ?_⟩
  have reversed := congrArg List.reverse whole
  rwa [List.reverse_reverse, List.reverse_append] at reversed

/-- Trimming does not reach beyond a character that is not blank. -/
theorem trimStart_append_cons {c : Char} (solid : isBlank c = false) (before after : List Char) :
    trimStart (before ++ c :: after) = trimStart before ++ c :: after := by
  induction before with
  | nil => exact List.dropWhile_cons_of_neg (by simp [solid])
  | cons d before ih =>
    by_cases blank : isBlank d = true
    · simpa only [trimStart, List.cons_append, List.dropWhile_cons_of_pos blank] using ih
    · simp only [trimStart, List.cons_append, List.dropWhile_cons_of_neg blank]

theorem trimEnd_append_cons {c : Char} (solid : isBlank c = false) (before after : List Char) :
    trimEnd (before ++ c :: after) = before ++ c :: trimEnd after := by
  have back := trimStart_append_cons solid after.reverse before.reverse
  have turned : (before ++ c :: after).reverse = after.reverse ++ c :: before.reverse := by simp
  simp only [trimStart] at back
  rw [trimEnd, turned, back, List.reverse_append]
  simp [trimEnd]

/-- A text that does not begin with a blank is trimmed at its end. -/
theorem trim_cons {c : Char} (solid : isBlank c = false) (text : List Char) :
    trim (c :: text) = c :: trimEnd text := by
  have start := trimStart_append_cons solid [] text
  have stop := trimEnd_append_cons solid [] text
  exact (congrArg trimEnd start).trans stop

/-- A text whose first and last characters are not blank is trimmed. -/
theorem trim_between {first last : Char} (front : isBlank first = false)
    (back : isBlank last = false) (text : List Char) :
    trim (first :: (text ++ [last])) = first :: (text ++ [last]) := by
  rw [trim_cons front, trimEnd_append_cons back]
  rfl

theorem Blanks.trim_append {blanks : List Char} (h : Blanks blanks) (text : List Char) :
    Text.trim (text ++ blanks) = Text.trim text := by
  induction text with
  | nil => exact h.trim
  | cons c text ih =>
    by_cases blank : isBlank c = true
    · simpa only [Text.trim, trimStart, List.cons_append, List.dropWhile_cons_of_pos blank] using ih
    · have front (rest : List Char) : Text.trim (c :: rest) = trimEnd (c :: rest) := by
        rw [Text.trim, trimStart, List.dropWhile_cons_of_neg blank]
      rw [List.cons_append, front, front, ← List.cons_append, h.trimEnd_append]

theorem trim_trimEnd (text : List Char) : trim (trimEnd text) = trim text := by
  obtain ⟨blanks, blank, whole⟩ := exists_trimEnd_append text
  have padded := blank.trim_append (trimEnd text)
  rw [← whole] at padded
  exact padded.symm

theorem trimStart_trimStart (text : List Char) : trimStart (trimStart text) = trimStart text :=
  List.dropWhile_idempotent isBlank text

theorem trim_trimStart (text : List Char) : trim (trimStart text) = trim text := by
  rw [trim, trimStart_trimStart, trim]

/-- A text is blank if nothing is left of it when it is trimmed. -/
theorem trim_eq_nil_iff {text : List Char} : trim text = [] ↔ Blanks text := by
  refine ⟨fun empty => ?_, Blanks.trim⟩
  obtain ⟨front, before, start⟩ := exists_append_trimStart text
  obtain ⟨back, after, stop⟩ := exists_trimEnd_append (trimStart text)
  have middle : trimEnd (trimStart text) = [] := empty
  rw [middle, List.nil_append] at stop
  rw [start, stop]
  intro c there
  exact (List.mem_append.mp there).elim (before c) (after c)

/-! ### Words -/

theorem wordsAfter_solid {text : List Char} (solid : Solid text) (word rest : List Char) :
    wordsAfter word (text ++ rest) = wordsAfter (text.reverse ++ word) rest := by
  induction text generalizing word with
  | nil => rfl
  | cons c text ih =>
    have h := List.forall_mem_cons.mp solid
    simp only [List.cons_append, wordsAfter, h.1]
    simpa using ih h.2 (c :: word)

theorem wordsAfter_blanks {blanks : List Char} (h : Blanks blanks) (rest : List Char) :
    wordsAfter [] (blanks ++ rest) = wordsAfter [] rest := by
  induction blanks with
  | nil => rfl
  | cons c blanks ih =>
    have h := List.forall_mem_cons.mp h
    simpa [wordsAfter, h.1] using ih h.2

theorem words_blanks_append {blanks : List Char} (h : Blanks blanks) (rest : List Char) :
    words (blanks ++ rest) = words rest :=
  wordsAfter_blanks h rest

/-- A word ends at the blanks after it. -/
theorem words_append_blanks {word blanks : List Char} (solid : Solid word) (some_ : word ≠ [])
    (h : Blanks blanks) (rest : List Char) (apart : blanks ≠ [] ∨ rest = []) :
    words (word ++ (blanks ++ rest)) = word :: words rest := by
  rw [words, wordsAfter_solid solid, List.append_nil]
  cases blanks with
  | nil =>
    have last : rest = [] := apart.resolve_left (· rfl)
    subst last
    simp [wordsAfter, words, some_]
  | cons c blanks =>
    have h := List.forall_mem_cons.mp h
    have reversed : word.reverse.isEmpty = false := by simp [some_]
    simp only [List.cons_append, wordsAfter, h.1, reversed, List.reverse_reverse, words]
    simp [wordsAfter_blanks h.2]

/-- A word ends where a blank follows it, or nothing. -/
theorem words_append_of_head? {word rest : List Char} (solid : Solid word) (some_ : word ≠ [])
    (apart : ∀ c ∈ rest.head?, isBlank c = true) : words (word ++ rest) = word :: words rest := by
  rw [words, wordsAfter_solid solid, List.append_nil]
  cases rest with
  | nil => simp [wordsAfter, words, some_]
  | cons c rest =>
    have blank : isBlank c = true := apart c rfl
    simp [wordsAfter, words, blank, some_]

/-- A text is its leading run without blanks, and what begins with a blank or not at all. -/
theorem exists_solid_append (text : List Char) :
    ∃ word rest, Solid word ∧ (∀ c ∈ rest.head?, isBlank c = true) ∧ text = word ++ rest := by
  refine ⟨text.takeWhile (!isBlank ·), text.dropWhile (!isBlank ·), fun c there => ?_,
    fun c there => ?_, List.takeWhile_append_dropWhile.symm⟩
  · simpa using List.mem_takeWhile_imp there
  · have stop := List.head?_dropWhile_not (!isBlank ·) text
    simpa [Option.mem_def.mp there] using stop

/-- The first word of a text stands behind its leading blanks, and the other words are those of what
follows it. -/
theorem exists_of_words_eq_cons {text word : List Char} {more : List (List Char)}
    (found : words text = word :: more) :
    ∃ lead rest, Blanks lead ∧ Solid word ∧ word ≠ [] ∧ (∀ c ∈ rest.head?, isBlank c = true) ∧
      text = lead ++ (word ++ rest) ∧ words rest = more := by
  obtain ⟨lead, blank, whole⟩ := exists_append_trimStart text
  obtain ⟨first, rest, solid, apart, begins⟩ := exists_solid_append (trimStart text)
  have some_ : first ≠ [] := by
    rintro rfl
    have stop := List.head?_dropWhile_not isBlank text
    rw [List.nil_append] at begins
    cases rest with
    | nil =>
      rw [whole, words_blanks_append blank, begins] at found
      exact absurd found (List.cons_ne_nil _ _).symm
    | cons c rest =>
      have start : text.dropWhile isBlank = c :: rest := begins
      rw [start] at stop
      exact absurd (apart c rfl) (by simpa using stop)
  rw [whole, words_blanks_append blank, begins, words_append_of_head? solid some_ apart,
    List.cons.injEq] at found
  obtain ⟨rfl, rfl⟩ := found
  exact ⟨lead, rest, blank, solid, some_, apart, by rw [← begins]; exact whole, rfl⟩

theorem wordsAfter_ne_nil {word : List Char} (some_ : word ≠ []) (text : List Char) :
    wordsAfter word text ≠ [] := by
  induction text generalizing word with
  | nil => simp [wordsAfter, some_]
  | cons c text ih =>
    rw [wordsAfter]
    split
    · simp [some_]
    · exact ih (List.cons_ne_nil c word)

/-- A text has no more words than one that goes on. -/
theorem length_words_le_append (front back : List Char) :
    (words front).length ≤ (words (front ++ back)).length := by
  suffices general : ∀ word, (wordsAfter word front).length ≤
      (wordsAfter word (front ++ back)).length from general []
  induction front with
  | nil =>
    intro word
    cases word with
    | nil => simp [wordsAfter]
    | cons c word =>
      have more := List.length_pos_iff.mpr (wordsAfter_ne_nil (List.cons_ne_nil c word) back)
      simp only [wordsAfter, List.isEmpty_cons, List.nil_append]
      exact more
  | cons c front ih =>
    intro word
    simp only [List.cons_append, wordsAfter]
    split
    · split
      · exact ih []
      · simpa using ih []
    · exact ih (c :: word)

/-- Blanks, a run without blanks and blanks again hold one word at most. -/
theorem length_words_le_one {lead word trail : List Char} (before : Blanks lead)
    (solid : Solid word) (after : Blanks trail) :
    (words (lead ++ (word ++ trail))).length ≤ 1 := by
  have none_ := words_blanks_append after []
  rw [List.append_nil] at none_
  rw [words_blanks_append before]
  cases word with
  | nil =>
    rw [List.nil_append, none_]
    exact Nat.zero_le 1
  | cons c word =>
    have apart : ∀ c ∈ trail.head?, isBlank c = true := fun c there =>
      after c (List.mem_of_head? there)
    rw [words_append_of_head? solid (List.cons_ne_nil c word) apart, none_]
    exact Nat.le_refl 1

/-! ### Lines -/

/-- A line without the carriage return that may end it. -/
def chomp (line : List Char) : List Char :=
  (dropReturn line.reverse).reverse

theorem chomp_subset (line : List Char) : chomp line ⊆ line := by
  intro c there
  rw [chomp, List.mem_reverse] at there
  refine List.mem_reverse.mp ?_
  revert there
  generalize line.reverse = reversed
  unfold dropReturn
  split
  · exact List.mem_cons_of_mem _
  · exact id

/-- Only a carriage return is taken off a line. -/
theorem chomp_eq_self {line : List Char} (other : line.getLast? ≠ some '\r') :
    chomp line = line := by
  rw [List.getLast?_eq_head?_reverse] at other
  rw [chomp]
  unfold dropReturn
  split
  · rename_i same
    rw [same] at other
    exact absurd rfl other
  · exact List.reverse_reverse _

/-- A line is what is left when it is cut off, and blanks. -/
theorem exists_chomp_append (line : List Char) :
    ∃ blanks, Blanks blanks ∧ line = chomp line ++ blanks := by
  by_cases other : line.getLast? = some '\r'
  · obtain ⟨front, rfl⟩ := List.getLast?_eq_some_iff.mp other
    exact ⟨['\r'], by simp [Blanks, isBlank], by simp [chomp, dropReturn]⟩
  · exact ⟨[], by simp [Blanks], by simp [chomp_eq_self other]⟩

/-- A line that is cut off is trimmed like the whole line. -/
theorem trim_chomp (line : List Char) : trim (chomp line) = trim line := by
  obtain ⟨blanks, blank, whole⟩ := exists_chomp_append line
  have same := blank.trim_append (chomp line)
  rwa [← whole, eq_comm] at same

theorem linesAfter_append_newline {line : List Char} (one : '\n' ∉ line)
    (before rest : List Char) :
    linesAfter before (line ++ '\n' :: rest) = chomp (before.reverse ++ line) :: lines rest := by
  induction line generalizing before with
  | nil => simp [linesAfter, chomp, lines]
  | cons c line ih =>
    simp only [List.mem_cons, not_or] at one
    simp only [List.cons_append, linesAfter, if_neg (Ne.symm one.1)]
    simpa using ih one.2 (c :: before)

/-- The first line of a text ends at the first newline. -/
theorem lines_append_newline {line : List Char} (one : '\n' ∉ line) (rest : List Char) :
    lines (line ++ '\n' :: rest) = chomp line :: lines rest :=
  linesAfter_append_newline one [] rest

theorem linesAfter_unended {line : List Char} (one : '\n' ∉ line) (before : List Char) :
    linesAfter before line =
      if before.isEmpty && line.isEmpty then [] else [before.reverse ++ line] := by
  induction line generalizing before with
  | nil => simp [linesAfter]
  | cons c line ih =>
    simp only [List.mem_cons, not_or] at one
    simp only [linesAfter, if_neg (Ne.symm one.1), ih one.2]
    simp

/-- A text without newlines is one line, unless it is empty. -/
theorem lines_unended {line : List Char} (one : '\n' ∉ line) :
    lines line = if line.isEmpty then [] else [line] := by
  rw [lines, linesAfter_unended one]
  simp

/-- Lines with a newline between any two, and one after the last if it is `ended`. -/
def joined (ended : Bool) : List (List Char) → List Char
  | [] => []
  | [line] => if ended then line ++ ['\n'] else line
  | line :: rest => line ++ '\n' :: joined ended rest

/-- A line that is joined with others comes out of them first, as it is or without its carriage
return; an empty one may be lost at the end. -/
theorem lines_joined_cons {line : List Char} (one : '\n' ∉ line) (ended : Bool)
    (rest : List (List Char)) :
    lines (joined ended (line :: rest)) = chomp line :: lines (joined ended rest) ∨
      lines (joined ended (line :: rest)) = line :: lines (joined ended rest) ∨
      line = [] ∧ lines (joined ended (line :: rest)) = lines (joined ended rest) := by
  cases rest with
  | cons next rest => exact .inl (lines_append_newline one _)
  | nil =>
    cases ended with
    | true => exact .inl (lines_append_newline one [])
    | false =>
      have whole : joined false [line] = line := rfl
      rw [whole, lines_unended one]
      cases line with
      | nil => exact .inr (.inr ⟨rfl, rfl⟩)
      | cons c line => exact .inr (.inl rfl)

/-! ### Reading line by line -/

section Readers

variable {α : Type} {read : List Char → Option α}

/-- A reader of lines that finds nothing in an empty line and does not look at the carriage return
that may end a line. -/
structure SkipsLineEnds (read : List Char → Option α) : Prop where
  empty : read [] = none
  same : ∀ line, read (chomp line) = read line

/-- So is every reader that looks at a line without the blanks at its ends. -/
theorem SkipsLineEnds.of_trim (empty : read [] = none)
    (trims : ∀ line other, trim line = trim other → read line = read other) :
    SkipsLineEnds read :=
  ⟨empty, fun line => trims _ _ (trim_chomp line)⟩

/-- What is read of a text that is cut at a newline is what is read of its two parts. -/
theorem SkipsLineEnds.filterMap_append_newline (skips : SkipsLineEnds read)
    (before after : List Char) :
    (lines (before ++ '\n' :: after)).filterMap read =
      (lines before).filterMap read ++ (lines after).filterMap read := by
  -- The scan holds the part of the first line that it has seen, in reverse.
  suffices general : ∀ line, (linesAfter line (before ++ '\n' :: after)).filterMap read =
      (linesAfter line before).filterMap read ++ (lines after).filterMap read from general []
  induction before with
  | nil =>
    intro line
    have ended : linesAfter line ('\n' :: after) = chomp line.reverse :: lines after := by
      simp [linesAfter, chomp, lines]
    have alone : (linesAfter line []).filterMap read = [line.reverse].filterMap read := by
      cases line with
      | nil => simp [linesAfter, skips.empty]
      | cons c line => rfl
    rw [List.nil_append, ended, alone, List.filterMap_cons, List.filterMap_cons, skips.same]
    cases read line.reverse <;> rfl
  | cons c before ih =>
    intro line
    rw [List.cons_append, linesAfter, linesAfter]
    split
    · rw [List.filterMap_cons, List.filterMap_cons, ih []]
      cases read (dropReturn line).reverse <;> rfl
    · exact ih (c :: line)

/-- Of joined lines each is read as it is. -/
theorem SkipsLineEnds.filterMap_joined (skips : SkipsLineEnds read) (ended : Bool)
    {texts : List (List Char)} (one : ∀ line ∈ texts, '\n' ∉ line) :
    (lines (joined ended texts)).filterMap read = texts.filterMap read := by
  induction texts with
  | nil => rfl
  | cons line texts ih =>
    have one := List.forall_mem_cons.mp one
    have alone : (lines line).filterMap read = [line].filterMap read := by
      rw [lines_unended one.1]
      cases line <;> simp [skips.empty]
    have later : (lines (line ++ '\n' :: joined ended texts)).filterMap read =
        (line :: texts).filterMap read := by
      rw [skips.filterMap_append_newline, alone, ih one.2, ← List.filterMap_append,
        List.singleton_append]
    cases texts with
    | cons next rest => exact later
    | nil =>
      cases ended with
      | true => exact later
      | false => exact alone

end Readers

end RemoteAttach.Text
