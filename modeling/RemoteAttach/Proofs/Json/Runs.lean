import RemoteAttach.Json.Printer
import RemoteAttach.Json.Record
import RemoteAttach.Proofs.Json.Token

/-! Readers on texts that are known: what a reader takes from the text ahead, and what it gives for
it. Where nothing but the next token matters, the text behind it is left open. -/

namespace RemoteAttach.Json.Reader

variable {α β : Type} {text rest : List Char} {x : α}

/-- With `text` ahead the reader gives `x` and has `rest` ahead then. -/
def Runs (r : Reader α) (text : List Char) (x : α) (rest : List Char) : Prop :=
  ∀ cur : Cursor, cur.rest = text → text.length ≤ cur.bound →
    ∃ cur', r cur = .ok (x, cur') ∧ cur'.rest = rest ∧ rest.length ≤ cur'.bound

theorem Runs.bind {r : Reader α} {f : α → Reader β} {mid : List Char} {y : β}
    (first : Runs r text x mid) (second : Runs (f x) mid y rest) : Runs (r >>= f) text y rest := by
  intro cur ahead bounded
  obtain ⟨cur1, run1, ahead1, bounded1⟩ := first cur ahead bounded
  obtain ⟨cur2, run2, ahead2, bounded2⟩ := second cur1 ahead1 bounded1
  refine ⟨cur2, ?_, ahead2, bounded2⟩
  rw [bind_apply, run1]
  exact run2

theorem Runs.pure (x : α) (text : List Char) : Runs (Pure.pure x) text x text :=
  fun cur ahead bounded => ⟨cur, rfl, ahead, bounded⟩

/-- The value read is wrapped at last. -/
theorem Runs.andThen {r : Reader α} (h : Runs r text x rest) (f : α → β) :
    Runs (r >>= fun x => Pure.pure (f x)) text (f x) rest :=
  h.bind (Runs.pure _ _)

theorem Runs.advance (c : Char) (rest : List Char) : Runs advance (c :: rest) () rest := by
  intro cur ahead bounded
  obtain ⟨ahead', bound'⟩ := Cursor.advance_rest ahead
  exact ⟨cur.advance, rfl, ahead', by rw [bound']; exact Nat.le_of_succ_le bounded⟩

theorem Runs.peek {f : Option Char → Reader α} (h : Runs (f text.head?) text x rest) :
    Runs (Reader.peek >>= f) text x rest := by
  intro cur ahead bounded
  obtain ⟨cur', run, after⟩ := h cur ahead bounded
  refine ⟨cur', ?_, after⟩
  rw [peek_bind, ahead, run]

/-- Nothing is passed over in front of a character that is no blank. -/
theorem Runs.past_spaces {f : Option Char → Reader α}
    (solid : ∀ c ∈ text.head?, Cursor.isSpace c = false) (h : Runs (f text.head?) text x rest) :
    Runs (skipSpaces >>= f) text x rest := by
  intro cur ahead bounded
  have same : cur.skipSpaces.rest = text := by
    rw [Cursor.skipSpaces_rest, ahead]
    cases text with
    | nil => rfl
    | cons c text => rw [List.dropWhile_cons_of_neg (by simp [solid c rfl])]
  obtain ⟨cur', run, after⟩ := h cur.skipSpaces same bounded
  refine ⟨cur', ?_, after⟩
  rw [skipSpaces_bind, same, run]

/-- Loops take their fuel from a bound on the text ahead. -/
theorem Runs.bound {f : Nat → Reader α}
    (h : ∀ bound, text.length ≤ bound → Runs (f bound) text x rest) :
    Runs (Reader.bound >>= f) text x rest :=
  fun cur ahead bounded => h cur.bound bounded cur ahead bounded

theorem Runs.word (w rest : List Char) : Runs (word w) (w ++ rest) () rest := by
  induction w with
  | nil => exact Runs.pure () rest
  | cons c w ih =>
    refine Runs.peek ?_
    simp only [List.cons_append, List.head?_cons, ↓reduceIte]
    exact (Runs.advance c _).bind ih

/-! ### Brackets -/

theorem Runs.colon (rest : List Char) : Runs colon (':' :: rest) () rest :=
  Runs.past_spaces (by simp [Cursor.isSpace]) (Runs.advance _ _)

/-- A character that begins an item. -/
def Begins (c : Char) : Prop :=
  Cursor.isSpace c = false ∧ c ≠ ']'

theorem Runs.hasItem_first {c : Char} (begins : Begins c) (rest : List Char) :
    Runs (hasItem true) (c :: rest) true (c :: rest) := by
  refine Runs.past_spaces (by simpa using begins.1) ?_
  simp only [List.head?_cons]
  split
  · exact absurd ‹_› (by simp)
  · exact absurd (Option.some.inj ‹_›) begins.2
  · exact Runs.pure _ _

theorem Runs.hasItem_next {c : Char} (begins : Begins c) (rest : List Char) :
    Runs (hasItem false) (',' :: c :: rest) true (c :: rest) := by
  refine Runs.past_spaces (by simp [Cursor.isSpace]) ((Runs.advance _ _).bind ?_)
  refine Runs.past_spaces (by simpa using begins.1) ?_
  simp only [List.head?_cons]
  split
  · exact absurd (Option.some.inj ‹_›) begins.2
  · exact Runs.pure _ _
  · exact absurd ‹_› (by simp)

theorem Runs.hasItem_end (first : Bool) (rest : List Char) :
    Runs (hasItem first) (']' :: rest) false (']' :: rest) :=
  Runs.past_spaces (by simp [Cursor.isSpace]) (Runs.pure _ _)

theorem Runs.hasMember_first (rest : List Char) :
    Runs (hasMember true) ('"' :: rest) true ('"' :: rest) :=
  Runs.past_spaces (by simp [Cursor.isSpace]) (Runs.pure _ _)

theorem Runs.hasMember_next (rest : List Char) :
    Runs (hasMember false) (',' :: '"' :: rest) true ('"' :: rest) :=
  Runs.past_spaces (by simp [Cursor.isSpace]) ((Runs.advance _ _).bind
    (Runs.past_spaces (by simp [Cursor.isSpace]) (Runs.pure _ _)))

theorem Runs.hasMember_end (first : Bool) (rest : List Char) :
    Runs (hasMember first) ('\x7d' :: rest) false ('\x7d' :: rest) :=
  Runs.past_spaces (by simp [Cursor.isSpace]) (Runs.pure _ _)

theorem Runs.close (bracket : Bracket) (rest : List Char) :
    Runs bracket.close (bracket.closing :: rest) () rest := by
  cases bracket with
  | object => exact Runs.past_spaces (by simp [Bracket.closing, Cursor.isSpace]) (Runs.advance _ _)
  | array => exact Runs.past_spaces (by simp [Bracket.closing, Cursor.isSpace]) (Runs.advance _ _)

theorem Runs.enclose {r : Reader α} (bracket : Bracket)
    (body : Runs r text x (bracket.closing :: rest)) : Runs (bracket.enclose r) text x rest := by
  intro cur ahead bounded
  obtain ⟨cur1, run1, ahead1, bounded1⟩ := body cur ahead bounded
  obtain ⟨cur2, run2, after⟩ := Runs.close bracket rest cur1 ahead1 bounded1
  refine ⟨cur2, ?_, after⟩
  unfold Bracket.enclose
  rw [run1]
  dsimp only
  rw [run2]
  rfl

theorem Runs.enter (room : Nat) (c : Char) (rest : List Char) :
    Runs (enter (room + 1)) (c :: rest) room rest :=
  (Runs.advance c rest).bind (Runs.pure room rest)

/-- A whole text is read if nothing is left of it. -/
theorem Runs.run {r : Reader α} {text : String} (h : Runs r text.toList x []) :
    r.run text = .ok x := by
  obtain ⟨cur, run, ahead, -⟩ := h (.ofText text) rfl (Nat.le_refl _)
  unfold Reader.run
  rw [run]
  dsimp only
  rw [Cursor.skipSpaces_rest, ahead]
  rfl

end RemoteAttach.Json.Reader
