import RemoteAttach.Json.Commented
import Mathlib.Data.List.Induction

/-! The comma that the pass over a text holds open. It was read outside string literals and
comments, only blanks have been kept after it, and inside a string literal no comma is open: a
closing bracket drops just that comma. -/

namespace RemoteAttach.Json.Commented.Pass

open RemoteAttach.Text

/-- The pass over `read` stands outside string literals and has kept a comma that may be dropped,
with `place` characters after it. -/
structure Droppable (read : List Char) (p : Pass) (place : Nat) : Prop where
  mode : p.mode ≠ .literal ∧ p.mode ≠ .escape
  comma : ∃ earlier later blanks, read = earlier ++ ',' :: later ∧
    ((earlier.foldl step {}).mode = .plain ∨ (earlier.foldl step {}).mode = .solidus) ∧
    p.kept = blanks ++ ',' :: (plainText earlier).reverse ∧ blanks.length = place ∧
    ∀ c ∈ blanks, isBlank c = true

variable {read : List Char} {p : Pass} {place : Nat} {mode : Mode}

theorem Droppable.move (h : Droppable read p place) (c : Char)
    (outside : mode ≠ .literal ∧ mode ≠ .escape) :
    Droppable (read ++ [c]) { p with mode } place := by
  obtain ⟨earlier, later, blanks, rfl, kept⟩ := h.comma
  exact ⟨outside, earlier, later ++ [c], blanks, by simp, kept⟩

theorem Droppable.keep (h : Droppable read p place) {c : Char} (blank : isBlank c = true)
    (outside : mode ≠ .literal ∧ mode ≠ .escape) :
    Droppable (read ++ [c]) { p.keep c with mode } (place + 1) := by
  obtain ⟨earlier, later, blanks, rfl, before, kept, length, all⟩ := h.comma
  refine ⟨outside, earlier, later ++ [c], c :: blanks, by simp, before, ?_, ?_, ?_⟩
  · rw [Pass.keep, kept, List.cons_append]
  · rw [List.length_cons, length]
  · exact List.forall_mem_cons.mpr ⟨blank, all⟩

theorem comma_close (c : Char) (p : Pass) : (p.close c).comma = none := by
  unfold close
  split
  · rfl
  · assumption

/-- Outside string literals and comments a comma becomes the open one; blanks and a solidus leave
the open comma open, and other characters leave none. -/
theorem droppable_plainStep (h : ∀ place, p.comma = some place → Droppable read p place)
    (outside : (read.foldl step {}).mode = .plain ∨ (read.foldl step {}).mode = .solidus)
    (kept : p.kept = (plainText read).reverse) (c : Char)
    (open_ : (p.plainStep c).comma = some place) :
    Droppable (read ++ [c]) (p.plainStep c) place := by
  unfold plainStep at open_ ⊢
  by_cases quote : c = '"'
  · rw [if_pos quote] at open_
    cases open_
  rw [if_neg quote] at open_ ⊢
  by_cases solidus : c = '/'
  · rw [if_pos solidus] at open_ ⊢
    exact (h place open_).move c (by decide)
  rw [if_neg solidus] at open_ ⊢
  by_cases comma : c = ','
  · rw [if_pos comma] at open_ ⊢
    subst comma
    obtain rfl := Option.some.inj open_
    refine ⟨by simp, read, [], [], rfl, outside, ?_, rfl, by simp⟩
    rw [keepComma, kept, List.nil_append]
  rw [if_neg comma] at open_ ⊢
  by_cases bracket : (c = ']' || c = '\x7d') = true
  · rw [if_pos bracket] at open_
    cases (comma_close c p).symm.trans open_
  rw [if_neg bracket] at open_ ⊢
  by_cases blank : isBlank c = true
  · rw [if_pos blank] at open_ ⊢
    obtain ⟨n, before, rfl⟩ := Option.map_eq_some_iff.mp open_
    exact (h n before).keep blank (by decide)
  · rw [if_neg blank] at open_
    cases open_

/-- A step keeps the open comma one that may be dropped. -/
theorem droppable_step (h : ∀ place, p.comma = some place → Droppable read p place)
    (reached : read.foldl step {} = p) (c : Char) (open_ : (p.step c).comma = some place) :
    Droppable (read ++ [c]) (p.step c) place := by
  have closed (inside : p.mode = .literal ∨ p.mode = .escape) : p.comma = none := by
    cases comma : p.comma with
    | none => rfl
    | some place =>
      have outside := (h place comma).mode
      rcases inside with literal | escape
      · exact absurd literal outside.1
      · exact absurd escape outside.2
  have finish : plainText read = p.finish := by rw [plainText, reached]
  unfold step at open_ ⊢
  cases mode : p.mode <;> simp only [mode] at open_ ⊢
  case plain =>
    have kept : p.kept = (plainText read).reverse := by simp [finish, Pass.finish, mode]
    exact droppable_plainStep h (.inl (reached ▸ mode)) kept c open_
  case solidus =>
    by_cases line : c = '/'
    · rw [if_pos line] at open_ ⊢
      exact (h place open_).move c (by decide)
    rw [if_neg line] at open_ ⊢
    by_cases block : c = '*'
    · rw [if_pos block] at open_ ⊢
      exact (h place open_).move c (by decide)
    rw [if_neg block] at open_ ⊢
    -- The solidus is kept after all, and with it no comma stays open.
    have kept : (p.settle '/').kept = (plainText read).reverse := by
      simp [finish, Pass.finish, mode]
    exact droppable_plainStep (fun _ settled => by cases settled) (.inr (reached ▸ mode)) kept c
      open_
  case literal =>
    have keeps : (p.keep c).comma = none := by rw [keep, closed (.inl mode), Option.map_none]
    split at open_
    · cases keeps.symm.trans open_
    split at open_ <;> cases keeps.symm.trans open_
  case escape =>
    have keeps : (p.keep c).comma = none := by rw [keep, closed (.inr mode), Option.map_none]
    cases keeps.symm.trans open_
  case line =>
    by_cases newline : c = '\n'
    · rw [if_pos newline] at open_ ⊢
      obtain ⟨n, before, rfl⟩ := Option.map_eq_some_iff.mp open_
      exact (h n before).keep (newline ▸ by decide) (by decide)
    · rw [if_neg newline] at open_ ⊢
      exact (h place open_).move c (mode ▸ by decide)
  case block =>
    by_cases star : c = '*'
    · rw [if_pos star] at open_ ⊢
      exact (h place open_).move c (by decide)
    · rw [if_neg star] at open_ ⊢
      exact (h place open_).move c (mode ▸ by decide)
  case star =>
    by_cases ends : c = '/'
    · rw [if_pos ends] at open_ ⊢
      exact (h place open_).move c (by decide)
    rw [if_neg ends] at open_ ⊢
    by_cases star : c = '*'
    · rw [if_pos star] at open_ ⊢
      exact (h place open_).move c (mode ▸ by decide)
    · rw [if_neg star] at open_ ⊢
      exact (h place open_).move c (by decide)

/-- Wherever the pass stands in a text, the comma that it holds open is one that may be dropped. -/
theorem droppable_foldl (read : List Char) : ∀ place, (read.foldl step {}).comma = some place →
    Droppable read (read.foldl step {}) place := by
  induction read using List.reverseRecOn with
  | nil => exact fun place open_ => by cases open_
  | append_singleton read c ih =>
    rw [List.foldl_append, List.foldl_cons, List.foldl_nil]
    exact fun place open_ => droppable_step ih rfl c open_

end RemoteAttach.Json.Commented.Pass
