import Mathlib
import RemoteAttach.Proofs.Json.OpenComma
import RemoteAttach.Proofs.Json.Separated

/-! Stripping by byte offsets. A scan writes what is left of a text, and remembers at which byte of
that a comma stands which a closing bracket would still drop. At every turn of the scan a comma
begins there that was copied from outside string literals and comments, and only blanks come after
it, so that dropping it never fails and drops nothing else. What the scan leaves of a text is what
the pass over its characters leaves. -/

namespace RemoteAttach.Json.Commented

open RemoteAttach.Text

/-- The character that begins at a byte of a text, and the text without it; nothing if none begins
there. -/
def removeAt? (text : String) (offset : String.Pos.Raw) : Option (Char × String) :=
  if valid : offset.IsValid text then
    if inside : text.pos offset valid ≠ text.endPos then
      some ((text.pos offset valid).get inside,
        (text.sliceTo (text.pos offset valid)).copy ++
          (text.sliceFrom ((text.pos offset valid).next inside)).copy)
    else none
  else none

/-- Where a scan stands in the text. -/
inductive Region where
  /-- Outside string literals and comments. -/
  | outside
  /-- Inside a string literal. -/
  | literal
  /-- Inside a line comment. -/
  | line
  /-- Inside a block comment. -/
  | block
  deriving DecidableEq

/-- The state of a scan: the characters ahead, what has been written, and the byte of that at which
a comma stands that a closing bracket would still drop. -/
structure Scan where
  region : Region := .outside
  ahead : List Char
  output : String := ""
  comma : Option String.Pos.Raw := none

namespace Scan

def push (c : Char) (q : Scan) : Scan :=
  { q with output := q.output.push c }

def skip (q : Scan) : Scan :=
  { q with ahead := q.ahead.tail }

/-- Takes a character outside string literals and comments. Fails if a comma is to be dropped where
no character begins. -/
def takeOutside (c : Char) (q : Scan) : Option Scan :=
  if c = '"' then some { q.push c with region := .literal, comma := none }
  else if c = ',' then some { q.push c with comma := some q.output.rawEndPos }
  else if c = '/' ∧ q.ahead.head? = some '/' then some { q.skip with region := .line }
  else if c = '/' ∧ q.ahead.head? = some '*' then some { q.skip with region := .block }
  else if c = ']' ∨ c = '\x7d' then
    match q.comma with
    | some offset =>
      (removeAt? q.output offset).map fun removed =>
        push c { q with output := removed.2, comma := none }
    | none => some (q.push c)
  else if isBlank c then some (q.push c)
  else some { q.push c with comma := none }

/-- Takes a character inside a string literal, with the one after it if it is a backslash. -/
def takeLiteral (c : Char) (q : Scan) : Scan :=
  if c = '"' then { q.push c with region := .outside }
  else if c = '\\' then
    match q.ahead with
    | d :: rest => push d { q.push c with ahead := rest }
    | [] => q.push c
  else q.push c

def takeLine (c : Char) (q : Scan) : Scan :=
  if c = '\n' then { q.push c with region := .outside } else q

/-- Takes a character inside a block comment, with the one after it if the two end the comment. -/
def takeBlock (c : Char) (q : Scan) : Scan :=
  if c = '*' ∧ q.ahead.head? = some '/' then { q.skip with region := .outside } else q

def turn (q : Scan) : Option Scan :=
  match q.ahead with
  | [] => some q
  | c :: rest =>
    match q.region with
    | .outside => takeOutside c { q with ahead := rest }
    | .literal => some (takeLiteral c { q with ahead := rest })
    | .line => some (takeLine c { q with ahead := rest })
    | .block => some (takeBlock c { q with ahead := rest })

/-- The scan of a text after some turns; nothing if one of them has failed. -/
def after (text : String) : Nat → Option Scan
  | 0 => some { ahead := text.toList }
  | turns + 1 => (after text turns).bind turn

end Scan

/-- Removing the character at a byte leaves what is before and after it. -/
theorem removeAt?_append (before : String) (c : Char) (behind : String) :
    removeAt? (before ++ String.singleton c ++ behind) before.rawEndPos =
      some (c, before ++ behind) := by
  have valid : before.rawEndPos.IsValid (before ++ String.singleton c ++ behind) :=
    String.Pos.Raw.isValid_iff_exists_append.mpr
      ⟨before, String.singleton c ++ behind, String.append_assoc .., rfl⟩
  have splits : (String.pos _ _ valid).Splits before (String.singleton c ++ behind) :=
    ⟨String.append_assoc .., String.offset_pos⟩
  have inside := splits.ne_endPos_of_singleton
  rw [removeAt?, dif_pos valid, dif_pos inside, splits.next.get_eq_of_singleton,
    String.copy_sliceTo_eq_iff_exists_splits.mpr ⟨_, splits⟩,
    String.copy_sliceFrom_eq_iff_exists_splits.mpr ⟨_, splits.next⟩]

/-! ### The open comma -/

/-- A comma that a closing bracket would still drop: what was written before it, and the blanks that
were written after it. -/
structure OpenComma where
  before : String
  blanks : String

def OpenComma.push (c : Char) (comma : OpenComma) : OpenComma :=
  { comma with blanks := comma.blanks.push c }

@[simp] theorem OpenComma.before_push (c : Char) (comma : OpenComma) :
    (comma.push c).before = comma.before := rfl

@[simp] theorem OpenComma.blanks_push (c : Char) (comma : OpenComma) :
    (comma.push c).blanks = comma.blanks.push c := rfl

/-- The mode of the pass over characters in a region of the text. -/
def Region.mode : Region → Mode
  | outside => .plain
  | literal => .literal
  | line => .line
  | block => .block

namespace Scan

/-- The scan's comma is where `comma` tells, with only blanks after it, and the scan is not inside a
string literal. -/
structure HasOpen (q : Scan) (comma : OpenComma) : Prop where
  region : q.region ≠ .literal
  offset : q.comma = some comma.before.rawEndPos
  output : q.output = comma.before ++ "," ++ comma.blanks
  blanks : ∀ c ∈ comma.blanks.toList, isBlank c = true

/-- One of the first turns of the scan of a text has copied a comma from outside string literals and
comments, right behind `before`. -/
def Copies (text : String) (turns : Nat) (before : String) : Prop :=
  ∃ earlier < turns, ∃ p rest, after text earlier = some p ∧ p.region = .outside ∧
    p.ahead = ',' :: rest ∧ p.output = before

/-- What a scan has written of a text after some turns has, at a byte, a comma that may be
dropped. -/
structure Droppable (text : String) (turns : Nat) (q : Scan) (offset : String.Pos.Raw) : Prop where
  region : q.region ≠ .literal
  valid : offset.IsValid q.output
  comma : ∃ before blanks, Copies text turns before ∧ offset = before.rawEndPos ∧
    (∀ c ∈ blanks.toList, isBlank c = true) ∧ q.output = before ++ "," ++ blanks ∧
    removeAt? q.output offset = some (',', before ++ blanks)

/-- The scan's comma is where `comma?` tells, if there is one. -/
def Has (q : Scan) : Option OpenComma → Prop
  | some comma => q.HasOpen comma
  | none => q.comma = none

/-- A comma that is open after a turn was so before, perhaps with fewer blanks after it, or has just
been copied from outside string literals and comments. -/
def Stems (q : Scan) (comma? : Option OpenComma) (next : OpenComma) : Prop :=
  (∃ blanks, comma? = some ⟨next.before, blanks⟩) ∨
    q.region = .outside ∧ q.ahead.head? = some ',' ∧ next.before = q.output

/-- What the pass over characters leaves of a text if it goes on from the state of a scan. -/
def remainder (q : Scan) (comma? : Option OpenComma) : List Char :=
  (q.ahead.foldl Pass.step
    ⟨q.region.mode, q.output.toList.reverse, comma?.map (·.blanks.toList.length)⟩).finish

/-- A turn succeeds, its open comma is known, and it goes on as the pass over characters does. -/
def Turns (q : Scan) (comma? : Option OpenComma) (result : Option Scan) : Prop :=
  ∃ next next?, result = some next ∧ next.Has next? ∧
    (∀ comma ∈ next?, q.Stems comma? comma) ∧ next.remainder next? = q.remainder comma?

theorem HasOpen.removeAt? {q : Scan} {comma : OpenComma} (h : q.HasOpen comma) :
    removeAt? q.output comma.before.rawEndPos = some (',', comma.before ++ comma.blanks) := by
  rw [h.output]
  exact removeAt?_append comma.before ',' comma.blanks

theorem HasOpen.droppable {text : String} {turns : Nat} {q : Scan} {comma : OpenComma}
    (h : q.HasOpen comma) (copied : Copies text turns comma.before) :
    q.Droppable text turns comma.before.rawEndPos where
  region := h.region
  valid := String.Pos.Raw.isValid_iff_exists_append.mpr
    ⟨comma.before, "," ++ comma.blanks, h.output.trans (String.append_assoc ..), rfl⟩
  comma := ⟨comma.before, comma.blanks, copied, rfl, h.blanks, h.output, h.removeAt?⟩

/-- Outside string literals an open comma stays where it is, whatever the scan passes over. -/
theorem Has.move {q : Scan} {comma? : Option OpenComma} (h : q.Has comma?) (region : Region)
    (outside : region ≠ .literal) (ahead : List Char) : { q with region, ahead }.Has comma? := by
  cases comma? with
  | none => exact h
  | some comma => exact ⟨outside, h.offset, h.output, h.blanks⟩

theorem Has.push_blank {q : Scan} {comma? : Option OpenComma} (h : q.Has comma?) {c : Char}
    (blank : isBlank c = true) : (q.push c).Has (comma?.map (·.push c)) := by
  cases comma? with
  | none => exact h
  | some comma =>
    refine ⟨h.region, h.offset, ?_, ?_⟩
    · rw [push, h.output, OpenComma.before_push, OpenComma.blanks_push, String.push_eq_append,
        String.push_eq_append, String.append_assoc]
    · rw [OpenComma.blanks_push, String.toList_push]
      exact List.forall_mem_append.mpr ⟨h.blanks, List.forall_mem_singleton.mpr blank⟩

/-- A turn that passes over characters. -/
theorem Turns.passes {q next : Scan} {comma? : Option OpenComma} (h : next.Has comma?)
    (same : next.remainder comma? = q.remainder comma?) : q.Turns comma? (some next) :=
  ⟨next, comma?, rfl, h, fun comma open_ => .inl ⟨comma.blanks, open_⟩, same⟩

/-- A turn that writes a blank. -/
theorem Turns.writes {q next : Scan} {comma? : Option OpenComma} {c : Char}
    (h : next.Has (comma?.map (·.push c)))
    (same : next.remainder (comma?.map (·.push c)) = q.remainder comma?) :
    q.Turns comma? (some next) := by
  refine ⟨next, _, rfl, h, fun comma open_ => ?_, same⟩
  obtain ⟨before, rfl, rfl⟩ := Option.map_eq_some_iff.mp open_
  exact .inl ⟨before.blanks, rfl⟩

/-- A turn after which no comma is open. -/
theorem Turns.settles {q next : Scan} {comma? : Option OpenComma} (h : next.comma = none)
    (same : next.remainder none = q.remainder comma?) : q.Turns comma? (some next) :=
  ⟨next, none, rfl, h, nofun, same⟩

/-! ### One turn -/

variable {q : Scan} {comma? : Option OpenComma} {c : Char} {rest : List Char}

theorem turns_line (h : q.Has comma?) (region : q.region = .line) (ahead : q.ahead = c :: rest) :
    q.Turns comma? (some (takeLine c { q with ahead := rest })) := by
  obtain ⟨_, _, output, comma⟩ := q
  subst region ahead
  rw [takeLine]
  split
  · rename_i newline
    subst newline
    refine .writes ((h.push_blank (by decide)).move .outside (by decide) rest) ?_
    cases comma? <;> simp [remainder, Region.mode, push, OpenComma.push, Pass.step, Pass.keep]
  · rename_i other
    refine .passes (h.move .line (by decide) rest) ?_
    simp [remainder, Region.mode, Pass.step, other]

theorem turns_block (h : q.Has comma?) (region : q.region = .block) (ahead : q.ahead = c :: rest) :
    q.Turns comma? (some (takeBlock c { q with ahead := rest })) := by
  obtain ⟨_, _, output, comma⟩ := q
  subst region ahead
  rw [takeBlock]
  split
  · rename_i ends
    obtain ⟨rfl, solidus⟩ := ends
    obtain ⟨more, rfl⟩ := List.head?_eq_some_iff.mp solidus
    refine .passes (h.move .outside (by decide) more) ?_
    simp [remainder, Region.mode, skip, Pass.step]
  · rename_i open_
    refine .passes (h.move .block (by decide) rest) ?_
    by_cases star : c = '*'
    · subst star
      exact (finish_star fun solidus => open_ ⟨rfl, solidus⟩).symm
    · simp [remainder, Region.mode, Pass.step, star]

/-- Inside a string literal no comma is open. -/
theorem Has.none_of_literal (h : q.Has comma?) (region : q.region = .literal) :
    comma? = none ∧ q.comma = none := by
  cases comma? with
  | none => exact ⟨rfl, h⟩
  | some comma => exact absurd region h.region

theorem turns_literal (h : q.Has comma?) (region : q.region = .literal)
    (ahead : q.ahead = c :: rest) :
    q.Turns comma? (some (takeLiteral c { q with ahead := rest })) := by
  obtain ⟨rfl, closed⟩ := h.none_of_literal region
  obtain ⟨_, _, output, comma⟩ := q
  subst region ahead closed
  rw [takeLiteral]
  split
  · rename_i quote
    subst quote
    refine .settles rfl ?_
    simp [remainder, Region.mode, push, Pass.step, Pass.keep]
  · rename_i noQuote
    split
    · rename_i escape
      subst escape
      cases rest with
      | nil =>
        refine .settles rfl ?_
        simp [remainder, Region.mode, push, Pass.step, Pass.keep, Pass.finish]
      | cons d rest =>
        refine .settles rfl ?_
        simp [remainder, Region.mode, push, Pass.step, Pass.keep]
    · rename_i noEscape
      refine .settles rfl ?_
      simp [remainder, Region.mode, push, Pass.step, Pass.keep, noQuote, noEscape]

/-- A closing bracket drops the open comma and nothing else. -/
theorem turns_closing (h : q.Has comma?) (region : q.region = .outside)
    (ahead : q.ahead = c :: rest) (bracket : c = ']' ∨ c = '\x7d') :
    q.Turns comma? (takeOutside c { q with ahead := rest }) := by
  obtain ⟨_, _, output, comma⟩ := q
  subst region ahead
  have marks : c ≠ '"' ∧ c ≠ ',' ∧ c ≠ '/' := by rcases bracket with rfl | rfl <;> decide
  rw [takeOutside, if_neg marks.1, if_neg marks.2.1, if_neg (by simp [marks]),
    if_neg (by simp [marks]), if_pos bracket]
  cases comma? with
  | none =>
    obtain rfl : comma = none := h
    refine .settles rfl ?_
    simp [remainder, Region.mode, push, Pass.step, Pass.plainStep, Pass.close, marks, bracket]
  | some open_ =>
    have removed := h.removeAt?
    obtain ⟨before, blanks⟩ := open_
    obtain ⟨-, rfl, rfl, -⟩ := h
    simp only at removed ⊢
    rw [removed, Option.map_some]
    refine .settles rfl ?_
    -- In the pass the comma lies right behind the blanks.
    have dropped : (blanks.toList.reverse ++ ',' :: before.toList.reverse).eraseIdx
        blanks.toList.length = blanks.toList.reverse ++ before.toList.reverse := by
      rw [List.eraseIdx_append_of_length_le (by simp)]
      simp
    simp [remainder, Region.mode, push, Pass.step, Pass.plainStep, Pass.close, marks, bracket,
      dropped]

theorem turns_outside (h : q.Has comma?) (region : q.region = .outside)
    (ahead : q.ahead = c :: rest) :
    q.Turns comma? (takeOutside c { q with ahead := rest }) := by
  by_cases bracket : c = ']' ∨ c = '\x7d'
  · exact turns_closing h region ahead bracket
  obtain ⟨_, _, output, comma⟩ := q
  subst region ahead
  rw [takeOutside]
  split
  · rename_i quote
    subst quote
    refine .settles rfl ?_
    simp [remainder, Region.mode, push, Pass.step, Pass.plainStep, Pass.settle]
  split
  · rename_i isComma
    subst isComma
    have opens : Has (push ',' ⟨.outside, rest, output, some output.rawEndPos⟩)
        (some ⟨output, ""⟩) :=
      ⟨by simp [push], rfl, by simp [push, String.push_eq_append], by simp⟩
    refine ⟨_, some ⟨output, ""⟩, rfl, opens, fun comma there => ?_, ?_⟩
    · obtain rfl := Option.some.inj there
      exact .inr ⟨rfl, rfl, rfl⟩
    · simp [remainder, Region.mode, push, Pass.step, Pass.plainStep, Pass.keepComma]
  split
  · rename_i line
    obtain ⟨rfl, solidus⟩ := line
    obtain ⟨more, rfl⟩ := List.head?_eq_some_iff.mp solidus
    refine .passes (h.move .line (by decide) more) ?_
    simp [remainder, Region.mode, skip, Pass.step, Pass.plainStep]
  split
  · rename_i block
    obtain ⟨rfl, star⟩ := block
    obtain ⟨more, rfl⟩ := List.head?_eq_some_iff.mp star
    refine .passes (h.move .block (by decide) more) ?_
    simp [remainder, Region.mode, skip, Pass.step, Pass.plainStep]
  rename_i noQuote noComma noLine noBlock
  -- A blank leaves the open comma open, and any other character does not.
  split
  · rename_i blank
    have noSolidus : c ≠ '/' := by
      rintro rfl
      cases blank
    refine .writes ((h.push_blank blank).move .outside (by decide) rest) ?_
    cases comma? <;> simp [remainder, Region.mode, push, Pass.step, Pass.plainStep, Pass.keep,
      noQuote, noComma, noSolidus, bracket, blank]
  · rename_i solid
    refine .settles rfl ?_
    by_cases solidus : c = '/'
    -- Here the pass keeps the solidus only once it sees what comes next.
    · subst solidus
      refine Eq.trans ?_ (finish_solidus (fun line => noLine ⟨rfl, line⟩)
        fun block => noBlock ⟨rfl, block⟩).symm
      simp [remainder, Region.mode, push]
    · simp [remainder, Region.mode, push, Pass.step, Pass.plainStep, Pass.settle, noQuote, noComma,
        solidus, bracket, solid]

theorem turns_turn (h : q.Has comma?) : q.Turns comma? q.turn := by
  rw [turn]
  cases ahead : q.ahead with
  | nil => exact .passes h rfl
  | cons c rest =>
    cases region : q.region with
    | outside => simpa only [region] using turns_outside h region ahead
    | literal => simpa only [region] using turns_literal h region ahead
    | line => simpa only [region] using turns_line h region ahead
    | block => simpa only [region] using turns_block h region ahead

/-! ### All turns -/

/-- No turn of a scan fails; its open comma has been copied, and it goes on as the pass over
characters does. -/
theorem exists_after (text : String) (turns : Nat) :
    ∃ q comma?, after text turns = some q ∧ q.Has comma? ∧
      (∀ comma ∈ comma?, Copies text turns comma.before) ∧
      q.remainder comma? = plainText text.toList := by
  induction turns with
  | zero => exact ⟨_, none, rfl, rfl, by simp, rfl⟩
  | succ turns ih =>
    obtain ⟨q, comma?, reached, has, copied, same⟩ := ih
    obtain ⟨next, next?, turned, nextHas, stems, goesOn⟩ := turns_turn has
    refine ⟨next, next?, ?_, nextHas, fun comma open_ => ?_, goesOn.trans same⟩
    · rw [after, reached, Option.bind_some, turned]
    · rcases stems comma open_ with ⟨blanks, rfl⟩ | ⟨region, ahead, before⟩
      · obtain ⟨earlier, less, copy⟩ := copied _ rfl
        exact ⟨earlier, Nat.lt_succ_of_lt less, copy⟩
      · obtain ⟨rest, ahead⟩ := List.head?_eq_some_iff.mp ahead
        exact ⟨turns, Nat.lt_succ_self turns, q, rest, reached, region, ahead, before.symm⟩

theorem length_ahead_skip (q : Scan) : q.skip.ahead.length ≤ q.ahead.length := by
  simp [skip]

theorem length_ahead_takeOutside {next : Scan} (taken : takeOutside c q = some next) :
    next.ahead.length ≤ q.ahead.length := by
  have skipped := q.length_ahead_skip
  unfold takeOutside at taken
  repeat' split at taken
  case h_1 =>
    obtain ⟨removed, -, rfl⟩ := Option.map_eq_some_iff.mp taken
    exact Nat.le_refl _
  all_goals
    obtain rfl := Option.some.inj taken
    first | exact Nat.le_refl _ | exact skipped

theorem length_ahead_takeLiteral (c : Char) (q : Scan) :
    (takeLiteral c q).ahead.length ≤ q.ahead.length := by
  unfold takeLiteral
  repeat' split
  all_goals simp_all [push]

theorem length_ahead_takeLine (c : Char) (q : Scan) :
    (takeLine c q).ahead.length ≤ q.ahead.length := by
  unfold takeLine
  split <;> exact Nat.le_refl _

theorem length_ahead_takeBlock (c : Char) (q : Scan) :
    (takeBlock c q).ahead.length ≤ q.ahead.length := by
  unfold takeBlock
  split
  · exact q.length_ahead_skip
  · exact Nat.le_refl _

theorem length_ahead_turn {next : Scan} (turned : q.turn = some next) :
    next.ahead.length ≤ q.ahead.length - 1 := by
  rw [turn] at turned
  cases ahead : q.ahead with
  | nil =>
    simp only [ahead] at turned
    obtain rfl := Option.some.inj turned
    simp [ahead]
  | cons c rest =>
    cases region : q.region <;> simp only [ahead, region] at turned
    · exact length_ahead_takeOutside turned
    · exact Option.some.inj turned ▸ length_ahead_takeLiteral c _
    · exact Option.some.inj turned ▸ length_ahead_takeLine c _
    · exact Option.some.inj turned ▸ length_ahead_takeBlock c _

/-- Each turn takes a character of the text, as long as there is one. -/
theorem length_ahead_after {text : String} {turns : Nat} (reached : after text turns = some q) :
    q.ahead.length ≤ text.length - turns := by
  induction turns generalizing q with
  | zero =>
    obtain rfl := Option.some.inj reached
    exact Nat.le_of_eq String.length_toList
  | succ turns ih =>
    obtain ⟨p, before, turned⟩ := Option.bind_eq_some_iff.mp reached
    have less := ih before
    have one := length_ahead_turn turned
    omega

/-- At the end of the text the pass over characters keeps what the scan has written. -/
theorem remainder_of_ahead (atEnd : q.ahead = []) : q.remainder comma? = q.output.toList := by
  cases region : q.region <;> simp [remainder, atEnd, region, Region.mode, Pass.finish]

end Scan

/-- However far a text has been scanned, no turn has failed, and where a comma is remembered there
is one that may be dropped: it begins at that byte of what has been written, it has been copied from
outside string literals and comments, only blanks have been written after it, the scan is not inside
a string literal, and removing the comma removes nothing else. At the end of the text what has been
written is the stripped text. The same holds of the comma that the pass over characters holds open,
wherever it stands. -/
theorem scan_droppable (text : String) :
    (∀ turns, ∃ q, Scan.after text turns = some q ∧
      ∀ offset, q.comma = some offset → q.Droppable text turns offset) ∧
    (∃ q, Scan.after text text.length = some q ∧ q.ahead = [] ∧ q.output = strip text) ∧
    ∀ (read : List Char) (place : Nat), (read.foldl Pass.step {}).comma = some place →
      (read.foldl Pass.step {}).Droppable read place := by
  refine ⟨fun turns => ?_, ?_, Pass.droppable_foldl⟩
  · obtain ⟨q, comma?, reached, has, copied, -⟩ := Scan.exists_after text turns
    refine ⟨q, reached, fun offset remembered => ?_⟩
    cases comma? with
    | none => cases remembered.symm.trans has
    | some comma =>
      obtain rfl := Option.some.inj (has.offset.symm.trans remembered)
      exact has.droppable (copied comma rfl)
  · obtain ⟨q, comma?, reached, -, -, same⟩ := Scan.exists_after text text.length
    have atEnd : q.ahead = [] := by
      have left := Scan.length_ahead_after reached
      exact List.eq_nil_of_length_eq_zero (by omega)
    refine ⟨q, reached, atEnd, ?_⟩
    rw [strip, ← same, Scan.remainder_of_ahead atEnd, String.ofList_toList]

-- A comma inside a literal after a wide character, a wide blank, and a quote inside a comment.
theorem scan_droppable_wide :
    ∃ q, Scan.after "[\"é,\" ,\u3000/* \" */ ]" 14 = some q ∧ q.comma = some ⟨7⟩ ∧
      q.Droppable "[\"é,\" ,\u3000/* \" */ ]" 14 ⟨7⟩ := by
  obtain ⟨q, reached, droppable⟩ := (scan_droppable "[\"é,\" ,\u3000/* \" */ ]").1 14
  have remembered :
      (Scan.after "[\"é,\" ,\u3000/* \" */ ]" 14).bind Scan.comma = some ⟨7⟩ := by cbv
  rw [reached, Option.bind_some] at remembered
  exact ⟨q, reached, remembered, droppable ⟨7⟩ remembered⟩

end RemoteAttach.Json.Commented
