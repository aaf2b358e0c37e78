import RemoteAttach.Json.Commented
import RemoteAttach.Proofs.Json.Commented

/-! The parts of a text of JSON with comments: string literals, comments, and the characters around
them. From the parts come two texts without comments. In the separated text a blank stands for each
comment and only commas after a value are dropped; the pass over a text leaves nothing for a comment
and drops every comma before a closing bracket. -/

namespace RemoteAttach.Json.Commented

open RemoteAttach.Text

/-! ### Parts -/

/-- A part of a text. -/
inductive Part where
  /-- A character outside string literals and comments. -/
  | char (c : Char)
  /-- A string literal. -/
  | literal (parts : List LiteralPart)
  /-- A string literal that the end of the text cuts short, perhaps inside an escape. -/
  | cut (parts : List LiteralPart) (escape : Bool)
  /-- A comment. Only a block comment may lack its end. -/
  | comment (ended : Bool)

mutual

/-- The parts of a text. -/
def partsOf : List Char → List Part
  | [] => []
  | '/' :: '/' :: rest => afterLine rest
  | '/' :: '*' :: rest => afterBlock rest
  | '"' :: rest => afterQuote [] rest
  | c :: rest => .char c :: partsOf rest

/-- The parts of a text that begins inside a line comment. The newline after it is no part of it. -/
def afterLine : List Char → List Part
  | [] => [.comment true]
  | '\n' :: rest => .comment true :: .char '\n' :: partsOf rest
  | _ :: rest => afterLine rest

/-- The parts of a text that begins inside a block comment. -/
def afterBlock : List Char → List Part
  | [] => [.comment false]
  | '*' :: '/' :: rest => .comment true :: partsOf rest
  | _ :: rest => afterBlock rest

/-- The parts of a text that begins inside a string literal, whose parts so far are `read`, last
first. -/
def afterQuote (read : List LiteralPart) : List Char → List Part
  | [] => [.cut read.reverse false]
  | c :: rest =>
    if quote : c = '"' then .literal read.reverse :: partsOf rest
    else if escape : c = '\\' then
      match rest with
      | [] => [.cut read.reverse true]
      | d :: rest => afterQuote (.escape d :: read) rest
    else afterQuote (.char c ⟨quote, escape⟩ :: read) rest

end

theorem afterQuote_quote (read : List LiteralPart) (rest : List Char) :
    afterQuote read ('"' :: rest) = .literal read.reverse :: partsOf rest := by
  rw [afterQuote.eq_def]
  exact dif_pos rfl

theorem afterQuote_escape (read : List LiteralPart) (c : Char) (rest : List Char) :
    afterQuote read ('\\' :: c :: rest) = afterQuote (.escape c :: read) rest := by
  rw [afterQuote.eq_def]
  exact (dif_neg (by decide)).trans (dif_pos rfl)

theorem afterQuote_char (read : List LiteralPart) {c : Char} (quote : c ≠ '"') (escape : c ≠ '\\')
    (rest : List Char) :
    afterQuote read (c :: rest) = afterQuote (.char c ⟨quote, escape⟩ :: read) rest := by
  rw [afterQuote.eq_def]
  exact (dif_neg quote).trans (dif_neg escape)

/-- The characters of a part, with `gap` for a comment. -/
def Part.text (gap : List Char) : Part → List Char
  | char c => [c]
  | literal parts => (Token.literal parts).text
  | cut parts escape => '"' :: (parts.flatMap LiteralPart.text ++ if escape then ['\\'] else [])
  | comment _ => gap

/-- Tells whether only blanks and comments come before a closing bracket. -/
def closes : List Part → Bool
  | .char c :: rest => if isBlank c then closes rest else c = ']' || c = '\x7d'
  | .comment _ :: rest => closes rest
  | _ => false

/-- The parts without the commas that come before a closing bracket. -/
def withoutCommas : List Part → List Part
  | [] => []
  | .char ',' :: rest => if closes rest then withoutCommas rest else .char ',' :: withoutCommas rest
  | part :: rest => part :: withoutCommas rest

/-- Tells whether a value ends with the part, or before it if it is blank or a comment. -/
def Part.endsValue (before : Bool) : Part → Bool
  | char c => if isBlank c then before else c ∉ ['[', '\x7b', ':', ',']
  | comment _ => before
  | literal _ | cut _ _ => true

/-- The parts without the commas that come after a value and before a closing bracket. -/
def withoutTrailing : Bool → List Part → List Part
  | _, [] => []
  | value, .char ',' :: rest =>
    if value && closes rest then withoutTrailing false rest
    else .char ',' :: withoutTrailing false rest
  | value, part :: rest => part :: withoutTrailing (part.endsValue value) rest

/-- The parts of a text without the commas that come after a value and before a closing bracket. -/
def keptParts (text : String) : List Part :=
  withoutTrailing false (partsOf text.toList)

/-- The text with a blank for each comment, and without the commas that come after a value and before
a closing bracket. -/
def separated (text : String) : String :=
  String.ofList ((keptParts text).flatMap (Part.text [' ']))

/-! ### What separation keeps apart -/

/-- Tells whether every comment among the parts is ended. -/
def ended (parts : List Part) : Bool :=
  parts.all fun
    | .comment ended => ended
    | _ => true

/-- A character that makes words, such as numbers, outside string literals. -/
def isWord (c : Char) : Bool :=
  !isBlank c && c ∉ ['[', ']', '\x7b', '\x7d', ',', ':', '"']

/-- Tells whether comments come next and then a character of a word; `behind` tells whether a comment
has come before. -/
def wordPastComments : Bool → List Part → Bool
  | _, .comment _ :: rest => wordPastComments true rest
  | behind, .char c :: _ => behind && isWord c
  | _, _ => false

/-- Tells whether somewhere nothing but comments divides two characters of words. -/
def fuses : List Part → Bool
  | [] => false
  | .char c :: rest => (isWord c && wordPastComments false rest) || fuses rest
  | _ :: rest => fuses rest

/-- Tells whether some comma comes before a closing bracket. -/
def endsInComma : List Part → Bool
  | [] => false
  | .char ',' :: rest => closes rest || endsInComma rest
  | _ :: rest => endsInComma rest

theorem isBlank_comma : isBlank ',' = false := by decide

/-- Dropping commas after values does not change what comes before a closing bracket, where no value
comes before. -/
theorem closes_withoutTrailing (parts : List Part) :
    closes (withoutTrailing false parts) = closes parts := by
  induction parts with
  | nil => rfl
  | cons part parts ih =>
    cases part with
    | char c =>
      by_cases comma : c = ','
      · subst comma
        simp [withoutTrailing, closes, isBlank_comma]
      · rw [withoutTrailing.eq_3 _ _ _ (by simpa using comma), closes, closes, Part.endsValue]
        split
        · exact ih
        · rfl
    | comment ended => exact ih
    | literal ps => rfl
    | cut ps escape => rfl

/-- If no comma is left before a closing bracket, all of those commas came after values. -/
theorem withoutTrailing_eq {value : Bool} {parts : List Part}
    (none_ : endsInComma (withoutTrailing value parts) = false) :
    withoutTrailing value parts = withoutCommas parts := by
  fun_induction withoutTrailing value parts with
  | case1 => rfl
  | case2 value rest drops ih =>
    rw [withoutCommas, if_pos (Bool.and_eq_true_iff.mp drops).2]
    exact ih none_
  | case3 value rest keeps ih =>
    rw [endsInComma, closes_withoutTrailing, Bool.or_eq_false_iff] at none_
    rw [withoutCommas, if_neg (by simp [none_.1]), ih none_.2]
  | case4 value part rest noComma ih =>
    rw [withoutCommas.eq_3 _ _ noComma, ih]
    rwa [endsInComma.eq_3 _ _ noComma] at none_

/-! ### The pass over a text -/

/-- What a pass leaves of a text of which it has kept `kept`, last first, with an open comma at a
place of that, if the parts ahead are `parts`. -/
def leaves (kept : List Char) (comma : Option Nat) (parts : List Part) : List Char :=
  (comma.elim kept fun place => if closes parts then kept.eraseIdx place else kept).reverse ++
    (withoutCommas parts).flatMap (Part.text [])

variable {kept : List Char} {comma : Option Nat} {c : Char} {parts : List Part}

theorem leaves_nil : leaves kept comma [] = kept.reverse := by
  cases comma <;> simp [leaves, closes, withoutCommas]

theorem leaves_comment (ended : Bool) :
    leaves kept comma (.comment ended :: parts) = leaves kept comma parts := by
  rfl

theorem leaves_literal (ps : List LiteralPart) :
    leaves kept comma (.literal ps :: parts) =
      leaves ((Token.literal ps).text.reverse ++ kept) none parts := by
  cases comma <;> simp [leaves, closes, withoutCommas, Part.text]

theorem leaves_cut (ps : List LiteralPart) (escape : Bool) :
    leaves kept comma [.cut ps escape] =
      kept.reverse ++ Part.text [] (.cut ps escape) := by
  cases comma <;> simp [leaves, closes, withoutCommas]

theorem withoutCommas_char (other : c ≠ ',') :
    withoutCommas (.char c :: parts) = .char c :: withoutCommas parts := by
  rw [withoutCommas]
  simpa using other

/-- Outside string literals and comments, a step of the pass takes a character from the parts ahead
to those kept. -/
theorem leaves_char (noQuote : c ≠ '"') (noSolidus : c ≠ '/') (p : Pass) :
    leaves p.kept p.comma (.char c :: parts) =
      leaves (p.plainStep c).kept (p.plainStep c).comma parts := by
  obtain ⟨mode, kept, comma⟩ := p
  by_cases isComma : c = ','
  · subst isComma
    cases closing : closes parts <;>
      cases comma <;> simp [leaves, closes, withoutCommas, closing, Pass.plainStep, Pass.keepComma,
        Part.text, show isBlank ',' = false by decide]
  · by_cases bracket : c = ']' ∨ c = '\x7d'
    · have solid : isBlank c = false := by rcases bracket with rfl | rfl <;> decide
      cases comma <;> simp [leaves, closes, withoutCommas_char isComma, Pass.plainStep, Pass.close,
        Part.text, noQuote, noSolidus, isComma, bracket, solid]
    · cases blank : isBlank c <;> cases comma <;> cases closing : closes parts <;>
        simp [leaves, closes, withoutCommas_char isComma, Pass.plainStep, Pass.keep, Pass.settle,
          Part.text, noQuote, noSolidus, isComma, bracket, blank, closing]

theorem plainStep_mode (noQuote : c ≠ '"') (noSolidus : c ≠ '/') (p : Pass) :
    (p.plainStep c).mode = .plain := by
  unfold Pass.plainStep
  rw [if_neg noQuote, if_neg noSolidus]
  repeat' split
  all_goals rfl

theorem leaves_solidus : leaves kept comma (.char '/' :: parts) =
    leaves ('/' :: kept) none parts := by
  cases comma <;> simp [leaves, closes, withoutCommas, Part.text, show isBlank '/' = false by decide]

/-- A solidus that opens no comment is kept. -/
theorem finish_solidus {text : List Char} (noLine : text.head? ≠ some '/')
    (noBlock : text.head? ≠ some '*') :
    (text.foldl Pass.step ⟨.solidus, kept, comma⟩).finish =
      (text.foldl Pass.step ⟨.plain, '/' :: kept, none⟩).finish := by
  cases text with
  | nil => rfl
  | cons c text =>
    have next : Pass.step ⟨.solidus, kept, comma⟩ c = Pass.step ⟨.plain, '/' :: kept, none⟩ c := by
      have line : c ≠ '/' := by simpa using noLine
      have block : c ≠ '*' := by simpa using noBlock
      simp [Pass.step, line, block, Pass.settle, Pass.plainStep, Pass.keep, Pass.keepComma,
        Pass.close]
    rw [List.foldl_cons, next, List.foldl_cons]

/-- After a star, a block comment goes on as before unless a solidus comes. -/
theorem finish_star {text : List Char} (noEnd : text.head? ≠ some '/') :
    (text.foldl Pass.step ⟨.star, kept, comma⟩).finish =
      (text.foldl Pass.step ⟨.block, kept, comma⟩).finish := by
  cases text with
  | nil => simp [Pass.finish]
  | cons c text =>
    have other : c ≠ '/' := by simpa using noEnd
    by_cases star : c = '*' <;> simp [Pass.step, star, other]

/-- The pass keeps what the parts leave, from wherever in a text it begins. -/
theorem finish_foldl :
    (∀ text kept comma, (text.foldl Pass.step ⟨.plain, kept, comma⟩).finish =
      leaves kept comma (partsOf text)) ∧
    (∀ read text kept comma, (text.foldl Pass.step ⟨.literal,
      (read.reverse.flatMap LiteralPart.text).reverse ++ '"' :: kept, none⟩).finish =
      leaves kept comma (afterQuote read text)) ∧
    (∀ text kept comma, (text.foldl Pass.step ⟨.block, kept, comma⟩).finish =
      leaves kept comma (afterBlock text)) ∧
    ∀ text kept comma, (text.foldl Pass.step ⟨.line, kept, comma⟩).finish =
      leaves kept comma (afterLine text) := by
  apply partsOf.mutual_induct
  case case1 => exact fun kept comma => leaves_nil.symm
  case case2 => exact fun rest ih => ih
  case case3 => exact fun rest ih => ih
  case case4 =>
    intro rest ih kept comma
    rw [partsOf, ← ih]
    rfl
  case case5 =>
    intro c rest noLine noBlock noQuote ih kept comma
    rw [partsOf.eq_5 c rest noLine noBlock noQuote, List.foldl_cons]
    by_cases solidus : c = '/'
    · subst solidus
      rw [leaves_solidus, ← ih]
      refine finish_solidus (fun line => ?_) fun block => ?_
      · obtain ⟨more, rfl⟩ := List.head?_eq_some_iff.mp line
        exact noLine more rfl rfl
      · obtain ⟨more, rfl⟩ := List.head?_eq_some_iff.mp block
        exact noBlock more rfl rfl
    · have mode := plainStep_mode noQuote solidus ⟨.plain, kept, comma⟩
      rw [leaves_char noQuote solidus ⟨.plain, kept, comma⟩, Pass.step]
      generalize Pass.plainStep ⟨.plain, kept, comma⟩ c = p at mode ⊢
      obtain ⟨_, kept, comma⟩ := p
      subst mode
      exact ih kept comma
  case case6 =>
    intro read kept comma
    simp [afterQuote, leaves_cut, Part.text, Pass.finish]
  case case7 =>
    intro read rest ih kept comma
    rw [afterQuote_quote, leaves_literal, ← ih]
    simp [Token.text, Pass.step, Pass.keep]
  case case8 =>
    intro read _ kept comma
    simp [afterQuote, leaves_cut, Part.text, Pass.finish, Pass.step, Pass.keep]
  case case9 =>
    intro read d rest _ ih kept comma
    rw [afterQuote_escape, ← ih]
    simp [Pass.step, Pass.keep, LiteralPart.text]
  case case10 =>
    intro read d rest quote escape ih kept comma
    rw [afterQuote_char read quote escape, ← ih]
    simp [Pass.step, Pass.keep, LiteralPart.text, quote, escape]
  case case11 =>
    intro kept comma
    rw [afterBlock, leaves_comment, leaves_nil]
    rfl
  case case12 =>
    intro rest ih kept comma
    rw [afterBlock, leaves_comment, ← ih]
    rfl
  case case13 =>
    intro c rest noEnd ih kept comma
    rw [afterBlock.eq_3 c rest noEnd, ← ih, List.foldl_cons]
    by_cases star : c = '*'
    · subst star
      refine finish_star fun solidus => ?_
      obtain ⟨more, rfl⟩ := List.head?_eq_some_iff.mp solidus
      exact noEnd more rfl rfl
    · simp [Pass.step, star]
  case case14 =>
    intro kept comma
    rw [afterLine, leaves_comment, leaves_nil]
    rfl
  case case15 =>
    intro rest ih kept comma
    rw [afterLine, leaves_comment, leaves_char (by decide) (by decide) ⟨.plain, kept, comma⟩]
    exact ih _ _
  case case16 =>
    intro c rest noEnd ih kept comma
    rw [afterLine.eq_3 c rest noEnd, ← ih, List.foldl_cons, Pass.step]
    simp [show c ≠ '\n' from noEnd]

/-- Stripping a text deletes its comments and the commas before its closing brackets, and nothing
else. -/
theorem plainText_eq (text : List Char) :
    plainText text = (withoutCommas (partsOf text)).flatMap (Part.text []) := by
  rw [plainText]
  exact finish_foldl.1 text [] none

end RemoteAttach.Json.Commented
