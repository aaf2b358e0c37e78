import Mathlib.Data.List.Infix
import RemoteAttach.Text.Split

/-! Texts cut in two at the first mark, and texts cut into the pieces between the occurrences of a
separator. The pieces are free of the separator, and the text is the pieces with the separator
between them. A separator whose first character stands nowhere else in it cannot overlap itself; its
pieces are then the only ones of that kind, and each occurrence is replaced. -/

namespace RemoteAttach.Text

variable {separator : List Char}

/-- What stands before the first of some joined texts stands before them all. -/
theorem intercalate_modifyHead {texts : List (List Char)} (some_ : texts ≠ []) (c : Char) :
    List.intercalate separator (texts.modifyHead (c :: ·)) =
      c :: List.intercalate separator texts := by
  obtain ⟨text, more, rfl⟩ := List.exists_cons_of_ne_nil some_
  exact List.intercalate_cons_cons_left

theorem notMem_intercalate {c : Char} {texts : List (List Char)} (apart : c ∉ separator)
    (each : ∀ text ∈ texts, c ∉ text) : c ∉ List.intercalate separator texts := by
  induction texts with
  | nil => exact List.not_mem_nil
  | cons text texts ih =>
    have each := List.forall_mem_cons.mp each
    cases texts with
    | nil => simpa using each.1
    | cons next more =>
      rw [List.intercalate_cons_cons]
      simp [each.1, apart, ih each.2]

/-! ### Cutting in two -/

/-- A text is cut at the first separator. -/
theorem cutAt_append {mark : Char} {before : List Char} (free : mark ∉ before)
    (after : List Char) : cutAt mark (before ++ mark :: after) = some (before, after) := by
  induction before with
  | nil => simp [cutAt]
  | cons c before ih =>
    simp only [List.mem_cons, not_or] at free
    simp [cutAt, Ne.symm free.1, ih free.2]

theorem cutAt_of_notMem {mark : Char} {text : List Char} (free : mark ∉ text) :
    cutAt mark text = none := by
  induction text with
  | nil => rfl
  | cons c text ih =>
    simp only [List.mem_cons, not_or] at free
    simp [cutAt, Ne.symm free.1, ih free.2]

/-! ### Cutting -/

theorem piecesAfter_append (piece skipped text : List Char) :
    piecesAfter separator skipped.length piece (skipped ++ text) =
      piecesAfter separator 0 piece text := by
  induction skipped with
  | nil => rfl
  | cons c skipped ih => exact ih

/-- The characters held belong to the first piece. -/
theorem piecesAfter_eq (piece text : List Char) :
    piecesAfter separator 0 piece text =
      (pieces separator text).modifyHead (piece.reverse ++ ·) := by
  induction text generalizing piece with
  | nil => simp [pieces, piecesAfter]
  | cons c text ih =>
    unfold pieces piecesAfter
    split
    · simp
    · rw [ih (c :: piece), ih [c], List.modifyHead_modifyHead]
      simp [Function.comp_def]

@[simp] theorem pieces_nil : pieces separator [] = [[]] := rfl

/-- A separator at the front ends an empty piece. -/
theorem pieces_separator (some_ : separator ≠ []) (text : List Char) :
    pieces separator (separator ++ text) = [] :: pieces separator text := by
  obtain ⟨mark, rest, rfl⟩ := List.exists_cons_of_ne_nil some_
  have here : (mark :: rest).isPrefixOf (mark :: (rest ++ text)) = true :=
    List.isPrefixOf_iff_prefix.mpr (List.prefix_append (mark :: rest) text)
  rw [List.cons_append, pieces, piecesAfter, if_pos here]
  exact congrArg ([] :: ·) (piecesAfter_append [] rest text)

/-- A character where no separator begins belongs to the first piece. -/
theorem pieces_cons {c : Char} {text : List Char} (other : ¬ separator <+: c :: text) :
    pieces separator (c :: text) = (pieces separator text).modifyHead (c :: ·) := by
  rw [pieces, piecesAfter, if_neg (mt List.isPrefixOf_iff_prefix.mp other), piecesAfter_eq]
  rfl

/-- A text is cut from the left: at its end, at a separator, or past a character where none
begins. -/
theorem pieces_induction {P : List Char → Prop} (some_ : separator ≠ []) (nil : P [])
    (here : ∀ text, P text → P (separator ++ text))
    (next : ∀ c text, ¬ separator <+: c :: text → P text → P (c :: text)) (text : List Char) :
    P text := by
  generalize size : text.length = n
  induction n using Nat.strongRecOn generalizing text with
  | ind n ih =>
    subst size
    by_cases begins : separator <+: text
    · obtain ⟨rest, rfl⟩ := begins
      have : 0 < separator.length := List.length_pos_iff.mpr some_
      exact here rest (ih _ (by rw [List.length_append]; omega) rest rfl)
    · cases text with
      | nil => exact nil
      | cons c text => exact next c text begins (ih _ (Nat.lt_succ_self _) text rfl)

theorem pieces_ne_nil (some_ : separator ≠ []) (text : List Char) : pieces separator text ≠ [] := by
  induction text using pieces_induction some_ with
  | nil => simp
  | here text _ => simp [pieces_separator some_]
  | next c text other ih => simpa [pieces_cons other] using ih

/-- The pieces with the separator between them are the text. -/
theorem intercalate_pieces (some_ : separator ≠ []) (text : List Char) :
    List.intercalate separator (pieces separator text) = text := by
  induction text using pieces_induction some_ with
  | nil => simp
  | here text ih =>
    rw [pieces_separator some_, List.intercalate_cons_of_ne_nil (pieces_ne_nil some_ text), ih,
      List.nil_append]
  | next c text other ih =>
    rw [pieces_cons other, intercalate_modifyHead (pieces_ne_nil some_ text), ih]

/-- The first piece is what the text begins with. -/
theorem head_pieces_prefix (some_ : separator ≠ []) {text piece : List Char}
    {more : List (List Char)} (cut : pieces separator text = piece :: more) : piece <+: text := by
  have whole := intercalate_pieces some_ text
  rw [cut] at whole
  cases more with
  | nil => simp_all
  | cons next rest =>
    rw [List.intercalate_cons_cons, List.append_assoc] at whole
    exact ⟨_, whole⟩

/-- No piece holds the separator. -/
theorem free_of_mem_pieces (some_ : separator ≠ []) {text piece : List Char}
    (there : piece ∈ pieces separator text) : ¬ separator <:+: piece := by
  induction text using pieces_induction some_ generalizing piece with
  | nil =>
    rw [pieces_nil, List.mem_singleton] at there
    simpa [there] using some_
  | here text ih =>
    rw [pieces_separator some_, List.mem_cons] at there
    rcases there with rfl | there
    · simpa using some_
    · exact ih there
  | next c text other ih =>
    obtain ⟨first, more, cut⟩ := List.exists_cons_of_ne_nil (pieces_ne_nil some_ text)
    rw [pieces_cons other, cut, List.modifyHead_cons, List.mem_cons] at there
    rcases there with rfl | there
    · rw [List.infix_cons_iff, not_or]
      refine ⟨fun begins => other ?_, ih (by simp [cut])⟩
      exact begins.trans (List.cons_prefix_cons.mpr ⟨rfl, head_pieces_prefix some_ cut⟩)
    · exact ih (by simp [cut, there])

/-- A text without the separator is one piece. -/
theorem pieces_of_free {text : List Char} (free : ¬ separator <:+: text) :
    pieces separator text = [text] := by
  induction text with
  | nil => rfl
  | cons c text ih =>
    rw [List.infix_cons_iff, not_or] at free
    rw [pieces_cons free.1, ih free.2]
    rfl

theorem length_pieces_eq_one_iff (some_ : separator ≠ []) {text : List Char} :
    (pieces separator text).length = 1 ↔ ¬ separator <:+: text := by
  constructor
  · intro one
    obtain ⟨piece, cut⟩ := List.length_eq_one_iff.mp one
    have whole := intercalate_pieces some_ text
    rw [cut, List.intercalate_singleton] at whole
    exact whole ▸ free_of_mem_pieces some_ (cut ▸ List.mem_singleton_self piece)
  · intro free
    rw [pieces_of_free free]
    rfl

/-! ### Characters that a separator does not hold -/

theorem prefix_append_cons_iff {c : Char} (apart : c ∉ separator) {before after : List Char} :
    separator <+: before ++ c :: after ↔ separator <+: before := by
  refine ⟨fun begins => ?_, fun begins => begins.trans (List.prefix_append _ _)⟩
  induction before generalizing separator with
  | nil =>
    rcases List.prefix_cons_iff.mp begins with rfl | ⟨rest, rfl, -⟩
    · exact List.nil_prefix
    · exact absurd List.mem_cons_self apart
  | cons d before ih =>
    rcases List.prefix_cons_iff.mp begins with rfl | ⟨rest, rfl, later⟩
    · exact List.nil_prefix
    · exact List.cons_prefix_cons.mpr ⟨rfl, ih (fun there => apart (.tail d there)) later⟩

/-- A separator lies on one side of a character that it does not hold. -/
theorem infix_append_cons_iff {c : Char} (apart : c ∉ separator) {before after : List Char} :
    separator <:+: before ++ c :: after ↔ separator <:+: before ∨ separator <:+: after := by
  induction before with
  | nil =>
    have front : separator <+: c :: after ↔ separator = [] := by
      rw [← List.prefix_nil, ← List.nil_append (c :: after)]
      exact prefix_append_cons_iff apart
    rw [List.nil_append, List.infix_cons_iff, front, List.infix_nil]
  | cons d before ih =>
    rw [List.cons_append, List.infix_cons_iff, ← List.cons_append, prefix_append_cons_iff apart, ih,
      List.infix_cons_iff, or_assoc]

/-- Texts that the separator behind them ends are the pieces of the text that they make with it. -/
theorem pieces_intercalate_of_ends {texts : List (List Char)} (some_ : texts ≠ [])
    (alone : ∀ text ∈ texts, pieces separator text = [text])
    (ends : ∀ text ∈ texts, ∀ more,
      pieces separator (text ++ (separator ++ more)) = text :: pieces separator more) :
    pieces separator (List.intercalate separator texts) = texts := by
  induction texts with
  | nil => exact absurd rfl some_
  | cons text texts ih =>
    have alone := List.forall_mem_cons.mp alone
    have ends := List.forall_mem_cons.mp ends
    cases texts with
    | nil => rw [List.intercalate_singleton, alone.1]
    | cons next more =>
      rw [List.intercalate_cons_cons, List.append_assoc, ends.1,
        ih (List.cons_ne_nil next more) alone.2 ends.2]

/-- A character that separates cuts a text into the pieces before it and those behind it. -/
theorem pieces_append_cons (mark : Char) (before after : List Char) :
    pieces [mark] (before ++ mark :: after) = pieces [mark] before ++ pieces [mark] after := by
  induction before with
  | nil =>
    have here := pieces_separator (List.cons_ne_nil mark []) after
    rwa [List.singleton_append] at here
  | cons c before ih =>
    by_cases same : c = mark
    · subst same
      have here (text : List Char) : pieces [c] (c :: text) = [] :: pieces [c] text :=
        pieces_separator (List.cons_ne_nil c []) text
      rw [List.cons_append, here, here, ih, List.cons_append]
    · have other (text : List Char) : ¬ [mark] <+: c :: text := fun begins =>
        same (List.cons_prefix_cons.mp begins).1.symm
      obtain ⟨piece, more, cut⟩ :=
        List.exists_cons_of_ne_nil (pieces_ne_nil (List.cons_ne_nil mark []) before)
      rw [List.cons_append, pieces_cons (other _), pieces_cons (other _), ih, cut]
      rfl

/-! ### Separators that do not overlap themselves, and texts without their first character -/

section Once

variable {mark : Char} {rest : List Char}

theorem pieces_append_separator (once : mark ∉ rest) {body : List Char}
    (free : ¬ (mark :: rest) <:+: body) (more : List Char) :
    pieces (mark :: rest) (body ++ (mark :: rest ++ more)) =
      body :: pieces (mark :: rest) more := by
  induction body with
  | nil => exact pieces_separator (List.cons_ne_nil mark rest) more
  | cons c body ih =>
    rw [List.infix_cons_iff, not_or] at free
    -- The mark of the separator behind cannot lie inside a separator that begins here.
    have other : ¬ (mark :: rest) <+: c :: (body ++ (mark :: rest ++ more)) := by
      rw [List.cons_append, List.cons_prefix_cons, prefix_append_cons_iff once,
        ← List.cons_prefix_cons]
      exact free.1
    rw [List.cons_append, pieces_cons other, ih free.2]
    rfl

/-- Texts without the separator are the pieces of the text that they make with it. -/
theorem pieces_intercalate (once : mark ∉ rest) {texts : List (List Char)} (some_ : texts ≠ [])
    (free : ∀ text ∈ texts, ¬ (mark :: rest) <:+: text) :
    pieces (mark :: rest) (List.intercalate (mark :: rest) texts) = texts :=
  pieces_intercalate_of_ends some_ (fun text there => pieces_of_free (free text there))
    fun text there => pieces_append_separator once (free text there)

/-- A text without the first character of the separator is its first piece, whether or not the
separator overlaps itself. -/
theorem pieces_append_of_notMem {body : List Char} (apart : mark ∉ body) (more : List Char) :
    pieces (mark :: rest) (body ++ (mark :: rest ++ more)) =
      body :: pieces (mark :: rest) more := by
  induction body with
  | nil => exact pieces_separator (List.cons_ne_nil mark rest) more
  | cons c body ih =>
    simp only [List.mem_cons, not_or] at apart
    have other : ¬ (mark :: rest) <+: c :: (body ++ (mark :: rest ++ more)) := by
      rw [List.cons_prefix_cons]
      exact fun begins => apart.1 begins.1
    rw [List.cons_append, pieces_cons other, ih apart.2]
    rfl

/-- Texts without the first character of the separator are the pieces of the text that they make
with it. -/
theorem pieces_intercalate_of_notMem {texts : List (List Char)} (some_ : texts ≠ [])
    (apart : ∀ text ∈ texts, mark ∉ text) :
    pieces (mark :: rest) (List.intercalate (mark :: rest) texts) = texts := by
  have alone : ∀ text ∈ texts, pieces (mark :: rest) text = [text] := fun text there =>
    pieces_of_free fun held => apart text there (held.subset List.mem_cons_self)
  exact pieces_intercalate_of_ends some_ alone fun text there =>
    pieces_append_of_notMem (apart text there)

end Once

/-! ### Replacing -/

variable {replacement : List Char}

theorem replaceAll_nil : replaceAll separator replacement [] = [] := by
  simp [replaceAll]

theorem replaceAll_separator (some_ : separator ≠ []) (text : List Char) :
    replaceAll separator replacement (separator ++ text) =
      replacement ++ replaceAll separator replacement text := by
  rw [replaceAll, pieces_separator some_, List.intercalate_cons_of_ne_nil (pieces_ne_nil some_ text),
    List.nil_append]
  rfl

theorem replaceAll_cons (some_ : separator ≠ []) {c : Char} {text : List Char}
    (other : ¬ separator <+: c :: text) :
    replaceAll separator replacement (c :: text) = c :: replaceAll separator replacement text := by
  rw [replaceAll, pieces_cons other, intercalate_modifyHead (pieces_ne_nil some_ text)]
  rfl

/-- A character that the separator does not hold divides a text into two that are filled one by
one. -/
theorem replaceAll_append_cons {c : Char} (apart : c ∉ separator) (some_ : separator ≠ [])
    (before after : List Char) :
    replaceAll separator replacement (before ++ c :: after) =
      replaceAll separator replacement before ++ c :: replaceAll separator replacement after := by
  induction before using pieces_induction some_ with
  | nil =>
    have other : ¬ separator <+: [] ++ c :: after := by
      rwa [prefix_append_cons_iff apart, List.prefix_nil]
    rw [replaceAll_nil, List.nil_append, List.nil_append, replaceAll_cons some_ other]
  | here before ih =>
    rw [List.append_assoc, replaceAll_separator some_, replaceAll_separator some_, ih,
      List.append_assoc]
  | next d before other ih =>
    have other' : ¬ separator <+: d :: (before ++ c :: after) := by
      rwa [← List.cons_append, prefix_append_cons_iff apart]
    rw [List.cons_append, replaceAll_cons some_ other', replaceAll_cons some_ other, ih,
      List.cons_append]

/-- A text without the separator stays as it is. -/
theorem replaceAll_of_free {text : List Char} (free : ¬ separator <:+: text) :
    replaceAll separator replacement text = text := by
  rw [replaceAll, pieces_of_free free, List.intercalate_singleton]

/-! ### Texts with a character between them -/

theorem infix_intercalate_iff {c : Char} (apart : c ∉ separator) (some_ : separator ≠ [])
    {texts : List (List Char)} :
    separator <:+: List.intercalate [c] texts ↔ ∃ text ∈ texts, separator <:+: text := by
  induction texts with
  | nil => simpa using some_
  | cons text texts ih =>
    cases texts with
    | nil => simp
    | cons next rest =>
      rw [List.intercalate_cons_cons, List.append_assoc, List.singleton_append,
        infix_append_cons_iff apart, ih]
      simp

theorem replaceAll_intercalate {c : Char} (apart : c ∉ separator) (some_ : separator ≠ [])
    (texts : List (List Char)) :
    replaceAll separator replacement (List.intercalate [c] texts) =
      List.intercalate [c] (texts.map (replaceAll separator replacement)) := by
  induction texts with
  | nil => exact replaceAll_nil
  | cons text texts ih =>
    cases texts with
    | nil => simp
    | cons next rest =>
      rw [List.intercalate_cons_cons, List.append_assoc, List.singleton_append,
        replaceAll_append_cons apart some_, ih]
      simp

/-- A joined text holds each of its parts. -/
theorem infix_intercalate_of_mem {texts : List (List Char)} {text : List Char}
    (there : text ∈ texts) : text <:+: List.intercalate separator texts := by
  induction texts with
  | nil => exact absurd there List.not_mem_nil
  | cons first texts ih =>
    cases texts with
    | nil => simp_all
    | cons next rest =>
      rw [List.intercalate_cons_cons]
      rcases List.mem_cons.mp there with rfl | there
      · exact ⟨[], _, by rw [List.nil_append, List.append_assoc]⟩
      · exact (ih there).trans (List.suffix_append _ _).isInfix

/-! ### Counting -/

/-- The number of places in a text where a pattern begins. -/
def occurrences (pattern text : List Char) : Nat :=
  text.tails.countP pattern.isPrefixOf

theorem occurrences_cons_of_not {c : Char} {text : List Char} (other : ¬ separator <+: c :: text) :
    occurrences separator (c :: text) = occurrences separator text := by
  rw [occurrences, List.tails_cons, List.countP_cons_of_neg (mt List.isPrefixOf_iff_prefix.mp other)]
  rfl

theorem occurrences_cons_of_begins {c : Char} {text : List Char} (begins : separator <+: c :: text) :
    occurrences separator (c :: text) = occurrences separator text + 1 := by
  rw [occurrences, List.tails_cons, List.countP_cons_of_pos (List.isPrefixOf_iff_prefix.mpr begins)]
  rfl

theorem occurrences_pos_iff {text : List Char} :
    0 < occurrences separator text ↔ separator <:+: text := by
  rw [occurrences, List.countP_pos_iff, List.infix_iff_prefix_suffix]
  simp [and_comm]

/-- Behind its first character a separator that does not overlap itself begins only behind its
end. -/
theorem occurrences_append_of_notMem {mark : Char} {rest skipped : List Char}
    (apart : mark ∉ skipped) (text : List Char) :
    occurrences (mark :: rest) (skipped ++ text) = occurrences (mark :: rest) text := by
  induction skipped with
  | nil => rfl
  | cons c skipped ih =>
    simp only [List.mem_cons, not_or] at apart
    have other : ¬ (mark :: rest) <+: c :: (skipped ++ text) := by
      rw [List.cons_prefix_cons]
      exact fun begins => apart.1 begins.1
    rw [List.cons_append, occurrences_cons_of_not other, ih apart.2]

/-- Replacing a separator brings the characters of the replacement once for each place. -/
theorem count_replaceAll {mark c : Char} {rest : List Char} (once : mark ∉ rest)
    (apart : c ∉ mark :: rest) (text : List Char) :
    (replaceAll (mark :: rest) replacement text).count c =
      text.count c + occurrences (mark :: rest) text * replacement.count c := by
  induction text using pieces_induction (List.cons_ne_nil mark rest) with
  | nil => simp [replaceAll_nil, occurrences]
  | here text ih =>
    have begins : (mark :: rest) <+: mark :: (rest ++ text) := List.prefix_append (mark :: rest) text
    rw [replaceAll_separator (List.cons_ne_nil mark rest), List.count_append, List.count_append, ih,
      List.count_eq_zero.mpr apart, List.cons_append, occurrences_cons_of_begins begins,
      occurrences_append_of_notMem once, Nat.add_mul]
    omega
  | next d text other ih =>
    rw [replaceAll_cons (List.cons_ne_nil mark rest) other, occurrences_cons_of_not other,
      List.count_cons, List.count_cons, ih]
    omega

end RemoteAttach.Text
