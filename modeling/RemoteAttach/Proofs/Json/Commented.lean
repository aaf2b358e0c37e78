import RemoteAttach.Json.Commented
import RemoteAttach.Proofs.Json.Token

/-! Documents of JSON with comments: the tokens of a value with blanks and comments before, between
and after them, and with one comma more before the closing bracket of an array or object that is not
empty. Stripping such a document deletes its comments and the commas that are too many, and nothing
else. -/

namespace RemoteAttach.Json.Commented

open RemoteAttach.Text

/-- What may stand between tokens. A line comment holds no newline and a block comment no end
mark. -/
inductive Filler where
  | blank (c : Char) (blank : Cursor.isSpace c = true)
  | line (body : List Char) (one : '\n' ∉ body)
  | block (body : List Char) (open_ : ¬ ['*', '/'] <:+: body)

/-- A piece of a document: a token, a filler, or a comma before a closing bracket. -/
inductive Piece where
  | token (t : Token)
  | filler (f : Filler)
  | extraComma

/-- The characters of a filler. -/
def Filler.text : Filler → List Char
  | blank c _ => [c]
  | line body _ => '/' :: '/' :: (body ++ ['\n'])
  | block body _ => '/' :: '*' :: (body ++ ['*', '/'])

/-- What is left of a filler without its comment; the newline after a line comment stays. -/
def Filler.plain : Filler → List Char
  | blank c _ => [c]
  | line _ _ => ['\n']
  | block _ _ => []

/-- The characters of a piece. -/
def Piece.text : Piece → List Char
  | token t => t.text
  | filler f => f.text
  | extraComma => [',']

/-- What is left of a piece without comments and extra commas. -/
def Piece.plain : Piece → List Char
  | token t => t.text
  | filler f => f.plain
  | extraComma => []

/-- The token that a piece is, if it is one. -/
def Piece.token? : Piece → Option Token
  | token t => some t
  | filler _ => none
  | extraComma => none

/-- The name of a member, with what stands around its colon. -/
structure Name where
  parts : List LiteralPart
  beforeColon : List Filler
  afterColon : List Filler

/-- What comes before a value in a bracket pair: a name in an object, and nothing in an array. -/
def Label : Bracket → Type
  | .object => Name
  | .array => Unit

mutual

/-- A value of a document. -/
inductive Tree where
  | keyword (word : Keyword)
  | number (number : Numeral)
  | literal (parts : List LiteralPart)
  | empty (bracket : Bracket) (gap : List Filler)
  | full (bracket : Bracket) (entries : Entries bracket)

/-- The entries of a bracket pair that is not empty. An extra comma may follow the last one. -/
inductive Entries : Bracket → Type where
  | last {bracket : Bracket} (before : List Filler) (label : Label bracket) (value : Tree)
      (after : List Filler) (extra : Option (List Filler)) : Entries bracket
  | more {bracket : Bracket} (before : List Filler) (label : Label bracket) (value : Tree)
      (after : List Filler) (rest : Entries bracket) : Entries bracket

end

/-- The pieces of some fillers. -/
def fillers (fs : List Filler) : List Piece :=
  fs.map .filler

/-- The pieces of a label. -/
def Label.pieces : {bracket : Bracket} → Label bracket → List Piece
  | .object, (name : Name) =>
    .token (.literal name.parts) ::
      (fillers name.beforeColon ++ .token .colon :: fillers name.afterColon)
  | .array, _ => []

/-- The pieces of an extra comma and what follows it, if there is one. -/
def extraPieces : Option (List Filler) → List Piece
  | some fs => .extraComma :: fillers fs
  | none => []

mutual

/-- The pieces of a value. -/
def Tree.pieces : Tree → List Piece
  | .keyword word => [.token (.keyword word)]
  | .number n => [.token (.number n)]
  | .literal parts => [.token (.literal parts)]
  | .empty bracket gap =>
    .token (.opening bracket) :: (fillers gap ++ [.token (.closing bracket)])
  | .full bracket entries =>
    .token (.opening bracket) :: (entries.pieces ++ [.token (.closing bracket)])

/-- The pieces of the entries of a bracket pair. -/
def Entries.pieces {bracket : Bracket} : Entries bracket → List Piece
  | .last before label value after extra =>
    fillers before ++ (label.pieces ++ (value.pieces ++ (fillers after ++ extraPieces extra)))
  | .more before label value after rest =>
    fillers before ++ (label.pieces ++ (value.pieces ++ (fillers after ++
      .token .comma :: rest.pieces)))

end

/-- The tokens of pieces. -/
def tokensOf (pieces : List Piece) : List Token :=
  pieces.filterMap Piece.token?

/-- A document: a value with fillers around it, and perhaps a line comment that the end of the text
ends. -/
structure Document where
  before : List Filler
  value : Tree
  after : List Filler
  tail : Option (List Char)
  tail_one : ∀ body ∈ tail, '\n' ∉ body

namespace Document

/-- The pieces of a document. -/
def pieces (d : Document) : List Piece :=
  fillers d.before ++ (d.value.pieces ++ fillers d.after)

/-- The text of a document. -/
def text (d : Document) : List Char :=
  d.pieces.flatMap Piece.text ++ d.tail.elim [] fun body => '/' :: '/' :: body

/-- The text of a document without comments and extra commas. -/
def plain (d : Document) : List Char :=
  d.pieces.flatMap Piece.plain

/-- The tokens of a document, which its comments, blanks and extra commas are not part of. -/
def tokens (d : Document) : List Token :=
  tokensOf d.pieces

/-- The tokens of a document with nothing between them. -/
def bare (d : Document) : List Char :=
  d.tokens.flatMap Token.text

end Document

/-! ### Tokens -/

/-- Without comments and extra commas, pieces are their tokens with blanks between them. -/
theorem spaced_plain (pieces : List Piece) :
    Spaced (tokensOf pieces) (pieces.flatMap Piece.plain) := by
  induction pieces with
  | nil => exact .nil
  | cons piece pieces ih =>
    match piece with
    | .token t => exact .token t ih
    | .filler (.blank c blank) => exact .space blank ih
    | .filler (.line body one) => exact .space (by decide) ih
    | .filler (.block body open_) => exact ih
    | .extraComma => exact ih

theorem spaced_bare (tokens : List Token) : Spaced tokens (tokens.flatMap Token.text) := by
  induction tokens with
  | nil => exact .nil
  | cons t tokens ih => exact .token t ih

@[simp] theorem tokensOf_append (first second : List Piece) :
    tokensOf (first ++ second) = tokensOf first ++ tokensOf second :=
  List.filterMap_append

@[simp] theorem tokensOf_token (t : Token) (pieces : List Piece) :
    tokensOf (.token t :: pieces) = t :: tokensOf pieces := rfl

@[simp] theorem tokensOf_nil : tokensOf [] = [] := rfl

@[simp] theorem tokensOf_fillers (fs : List Filler) : tokensOf (fillers fs) = [] := by
  induction fs with
  | nil => rfl
  | cons f fs ih => exact ih

@[simp] theorem tokensOf_extraPieces (extra : Option (List Filler)) :
    tokensOf (extraPieces extra) = [] := by
  cases extra with
  | none => rfl
  | some fs => exact tokensOf_fillers fs

theorem isChain_cons_mark {mark : Token} {after : List Token} (other : mark.isNumber = false)
    (h : after.IsChain Token.Apart) : (mark :: after).IsChain Token.Apart := by
  refine List.isChain_cons.mpr ⟨fun t there => ?_, h⟩
  intro number
  simp [other] at number

/-- Any token that is no number may stand between any two others. -/
theorem isChain_append_mark {before after : List Token} (mark : Token)
    (other : mark.isNumber = false) (h1 : before.IsChain Token.Apart)
    (h2 : after.IsChain Token.Apart) : (before ++ mark :: after).IsChain Token.Apart := by
  refine List.isChain_append.mpr ⟨h1, isChain_cons_mark other h2, ?_⟩
  rintro t - m there -
  obtain rfl := Option.some.inj there
  exact other

theorem Label.isChain_append {bracket : Bracket} (label : Label bracket) {tokens : List Token}
    (h : tokens.IsChain Token.Apart) : (tokensOf label.pieces ++ tokens).IsChain Token.Apart := by
  cases bracket with
  | array => exact h
  | object => simpa [Label.pieces] using isChain_cons_mark rfl (isChain_cons_mark rfl h)

mutual

/-- No two numbers of a value stand next to each other. -/
theorem Tree.isChain_tokens : (t : Tree) → (tokensOf t.pieces).IsChain Token.Apart
  | .keyword word => by simp [Tree.pieces]
  | .number n => by simp [Tree.pieces]
  | .literal parts => by simp [Tree.pieces]
  | .empty bracket gap => by simp [Tree.pieces, Token.Apart, Token.isNumber]
  | .full bracket entries => by
    have closed := isChain_append_mark (.closing bracket) rfl entries.isChain_tokens .nil
    simpa [Tree.pieces] using isChain_cons_mark rfl closed

/-- No two numbers of the entries of a bracket pair stand next to each other. -/
theorem Entries.isChain_tokens {bracket : Bracket} : (entries : Entries bracket) →
    (tokensOf entries.pieces).IsChain Token.Apart
  | .last before label value after extra => by
    simpa [Entries.pieces] using label.isChain_append value.isChain_tokens
  | .more before label value after rest => by
    have both := isChain_append_mark .comma rfl value.isChain_tokens rest.isChain_tokens
    simpa [Entries.pieces] using label.isChain_append both

end

/-- No two numbers of a document stand next to each other. -/
theorem Document.isChain_tokens (d : Document) : d.tokens.IsChain Token.Apart := by
  simpa [tokens, pieces] using d.value.isChain_tokens

/-! ### Stripping -/

/-- Outside strings and comments, the pass keeps `out` of `text` and leaves no comma open. -/
def Settles (text out : List Char) : Prop :=
  ∀ p : Pass, p.mode = .plain →
    text.foldl Pass.step p = { mode := .plain, kept := out.reverse ++ p.kept, comma := none }

/-- Outside strings and comments, the pass keeps `out` of `text`, and an open comma stays open. -/
def Keeps (text out : List Char) : Prop :=
  ∀ p : Pass, p.mode = .plain →
    text.foldl Pass.step p =
      { mode := .plain, kept := out.reverse ++ p.kept, comma := p.comma.map (· + out.length) }

theorem Keeps.nil : Keeps [] [] := by
  rintro ⟨mode, kept, comma⟩ rfl
  simp

theorem Keeps.append {text text' out out' : List Char} (h1 : Keeps text out)
    (h2 : Keeps text' out') : Keeps (text ++ text') (out ++ out') := by
  intro p plain
  rw [List.foldl_append, h1 p plain, h2 _ rfl]
  cases p.comma <;> simp [Nat.add_assoc]

theorem Settles.append {text text' out out' : List Char} (h1 : Settles text out)
    (h2 : Settles text' out') : Settles (text ++ text') (out ++ out') := by
  intro p plain
  rw [List.foldl_append, h1 p plain, h2 _ rfl]
  simp

/-- What is kept after a settled text leaves it settled. -/
theorem Settles.append_keeps {text text' out out' : List Char} (h1 : Settles text out)
    (h2 : Keeps text' out') : Settles (text ++ text') (out ++ out') := by
  intro p plain
  rw [List.foldl_append, h1 p plain, h2 _ rfl]
  simp

theorem Keeps.append_settles {text text' out out' : List Char} (h1 : Keeps text out)
    (h2 : Settles text' out') : Settles (text ++ text') (out ++ out') := by
  intro p plain
  rw [List.foldl_append, h1 p plain, h2 _ rfl]
  simp

/-- A character that the pass keeps and that closes an open comma's chance to be dropped. -/
def Ordinary (c : Char) : Prop :=
  c ≠ '"' ∧ c ≠ '/' ∧ c ≠ ',' ∧ c ≠ ']' ∧ c ≠ '\x7d' ∧ isBlank c = false

instance : DecidablePred Ordinary := fun c =>
  inferInstanceAs (Decidable (c ≠ '"' ∧ c ≠ '/' ∧ c ≠ ',' ∧ c ≠ ']' ∧ c ≠ '\x7d' ∧
    isBlank c = false))

theorem step_ordinary {c : Char} (ordinary : Ordinary c) : Settles [c] [c] := by
  rintro ⟨mode, kept, comma⟩ rfl
  obtain ⟨h1, h2, h3, h4, h5, h6⟩ := ordinary
  simp [Pass.step, Pass.plainStep, Pass.settle, h1, h2, h3, h4, h5, h6]

theorem Settles.ordinary {text : List Char} (some_ : text ≠ [])
    (ordinary : ∀ c ∈ text, Ordinary c) : Settles text text := by
  induction text with
  | nil => exact absurd rfl some_
  | cons c text ih =>
    have h := List.forall_mem_cons.mp ordinary
    by_cases empty : text = []
    · subst empty
      exact step_ordinary h.1
    · exact (step_ordinary h.1).append (ih empty h.2)

theorem Keeps.blank {c : Char} (blank : isBlank c = true) : Keeps [c] [c] := by
  have h1 : c ≠ '"' := by rintro rfl; exact absurd blank (by decide)
  have h2 : c ≠ '/' := by rintro rfl; exact absurd blank (by decide)
  have h3 : c ≠ ',' := by rintro rfl; exact absurd blank (by decide)
  have h4 : c ≠ ']' := by rintro rfl; exact absurd blank (by decide)
  have h5 : c ≠ '\x7d' := by rintro rfl; exact absurd blank (by decide)
  rintro ⟨mode, kept, comma⟩ rfl
  simp [Pass.step, Pass.plainStep, Pass.keep, h1, h2, h3, h4, h5, blank]

theorem isBlank_of_isSpace {c : Char} (space : Cursor.isSpace c = true) : isBlank c = true := by
  simp only [Cursor.isSpace, Bool.or_eq_true, decide_eq_true_eq] at space
  rcases space with ((rfl | rfl) | rfl) | rfl <;> decide

/-- A line comment is passed over up to its end. -/
theorem foldl_line {body : List Char} (one : '\n' ∉ body) (p : Pass) (line : p.mode = .line) :
    body.foldl Pass.step p = p := by
  induction body with
  | nil => rfl
  | cons c body ih =>
    simp only [List.mem_cons, not_or] at one
    rw [List.foldl_cons, Pass.step, line]
    simp only [if_neg (Ne.symm one.1)]
    exact ih one.2

/-- A block comment is passed over up to its end mark, whether or not a star has been passed. -/
theorem foldl_block {body : List Char} (p : Pass)
    (inside : p.mode = .block ∧ ¬ ['*', '/'] <:+: body ∨
      p.mode = .star ∧ ¬ ['*', '/'] <:+: '*' :: body) :
    (body ++ ['*', '/']).foldl Pass.step p = { p with mode := .plain } := by
  induction body generalizing p with
  | nil =>
    obtain ⟨mode, kept, comma⟩ := p
    rcases inside with ⟨rfl, -⟩ | ⟨rfl, -⟩ <;> simp [Pass.step]
  | cons c body ih =>
    obtain ⟨mode, kept, comma⟩ := p
    have later {d : Char} {rest : List Char} (free : ¬ ['*', '/'] <:+: d :: rest) :
        ¬ ['*', '/'] <:+: rest := fun there => free (List.infix_cons there)
    rcases inside with ⟨rfl, free⟩ | ⟨rfl, free⟩
    · by_cases star : c = '*'
      · subst star
        exact ih ⟨.star, kept, comma⟩ (.inr ⟨rfl, free⟩)
      · have stays : Pass.step ⟨.block, kept, comma⟩ c = ⟨.block, kept, comma⟩ := by
          simp [Pass.step, star]
        rw [List.cons_append, List.foldl_cons, stays]
        exact ih ⟨.block, kept, comma⟩ (.inl ⟨rfl, later free⟩)
    · have open_ : c ≠ '/' := by
        rintro rfl
        exact free ⟨[], body, rfl⟩
      by_cases star : c = '*'
      · subst star
        exact ih ⟨.star, kept, comma⟩ (.inr ⟨rfl, later free⟩)
      · have back : Pass.step ⟨.star, kept, comma⟩ c = ⟨.block, kept, comma⟩ := by
          simp [Pass.step, star, open_]
        rw [List.cons_append, List.foldl_cons, back]
        exact ih ⟨.block, kept, comma⟩ (.inl ⟨rfl, later (later free)⟩)

/-- A string literal is kept as it is. -/
theorem foldl_parts (parts : List LiteralPart) (kept : List Char) :
    (parts.flatMap LiteralPart.text).foldl Pass.step { mode := .literal, kept, comma := none } =
      { mode := .literal, kept := (parts.flatMap LiteralPart.text).reverse ++ kept,
        comma := none } := by
  induction parts generalizing kept with
  | nil => rfl
  | cons part parts ih =>
    rw [List.flatMap_cons, List.foldl_append]
    cases part with
    | char c plain =>
      have kept_ : (LiteralPart.char c plain).text.foldl Pass.step
          { mode := .literal, kept, comma := none } =
          { mode := .literal, kept := c :: kept, comma := none } := by
        simp [LiteralPart.text, Pass.step, Pass.keep, plain.1, plain.2]
      rw [kept_, ih]
      simp [LiteralPart.text]
    | escape c =>
      have kept_ : (LiteralPart.escape c).text.foldl Pass.step
          { mode := .literal, kept, comma := none } =
          { mode := .literal, kept := c :: '\\' :: kept, comma := none } := by
        simp [LiteralPart.text, Pass.step, Pass.keep]
      rw [kept_, ih]
      simp [LiteralPart.text]

theorem Settles.literal (parts : List LiteralPart) :
    Settles (Token.literal parts).text (Token.literal parts).text := by
  rintro ⟨mode, kept, comma⟩ rfl
  rw [Token.text, List.foldl_cons, List.foldl_append]
  have opened : Pass.step { mode := .plain, kept, comma } '"' =
      { mode := .literal, kept := '"' :: kept, comma := none } := by
    simp [Pass.step, Pass.plainStep, Pass.settle]
  rw [opened, foldl_parts]
  simp [Pass.step, Pass.keep]

theorem Keeps.filler (f : Filler) : Keeps f.text f.plain := by
  cases f with
  | blank c blank => exact Keeps.blank (isBlank_of_isSpace blank)
  | line body one =>
    rintro ⟨mode, kept, comma⟩ rfl
    have opened : Pass.step (Pass.step ⟨.plain, kept, comma⟩ '/') '/' = ⟨.line, kept, comma⟩ := by
      simp [Pass.step, Pass.plainStep]
    rw [Filler.text, List.foldl_cons, List.foldl_cons, opened, List.foldl_append,
      foldl_line one _ rfl]
    simp [Filler.plain, Pass.step, Pass.keep]
  | block body open_ =>
    rintro ⟨mode, kept, comma⟩ rfl
    have opened : Pass.step (Pass.step ⟨.plain, kept, comma⟩ '/') '*' = ⟨.block, kept, comma⟩ := by
      simp [Pass.step, Pass.plainStep]
    rw [Filler.text, List.foldl_cons, List.foldl_cons, opened, foldl_block _ (.inl ⟨rfl, open_⟩)]
    simp [Filler.plain]

theorem Keeps.fillers (fs : List Filler) :
    Keeps ((fillers fs).flatMap Piece.text) ((fillers fs).flatMap Piece.plain) := by
  induction fs with
  | nil => exact Keeps.nil
  | cons f fs ih => exact (Keeps.filler f).append ih

/-- A comma is kept, and stays open until something other than fillers follows. -/
theorem step_comma (p : Pass) (plain : p.mode = .plain) :
    Pass.step p ',' = { mode := .plain, kept := ',' :: p.kept, comma := some 0 } := by
  obtain ⟨mode, kept, comma⟩ := p
  subst plain
  simp [Pass.step, Pass.plainStep, Pass.keepComma]

/-- A comma before a settled text is kept. -/
theorem Settles.comma {text out : List Char} (h : Settles text out) :
    Settles (',' :: text) (',' :: out) := by
  intro p plain
  rw [List.foldl_cons, step_comma p plain, h _ rfl]
  simp

/-- A closing bracket drops an open comma. -/
theorem step_closing (bracket : Bracket) (p : Pass) (plain : p.mode = .plain) :
    Pass.step p bracket.closing =
      { mode := .plain, comma := none,
        kept := bracket.closing :: p.comma.elim p.kept p.kept.eraseIdx } := by
  obtain ⟨mode, kept, comma⟩ := p
  subst plain
  cases bracket <;> cases comma <;> simp [Pass.step, Pass.plainStep, Pass.close, Bracket.closing]

/-- After a settled text, a closing bracket drops the extra comma before it. -/
theorem Settles.close {text out : List Char} (h : Settles text out) (bracket : Bracket)
    (extra : Option (List Filler)) :
    Settles (text ++ ((extraPieces extra).flatMap Piece.text ++ [bracket.closing]))
      (out ++ ((extraPieces extra).flatMap Piece.plain ++ [bracket.closing])) := by
  intro p plain
  rw [List.foldl_append, h p plain]
  cases extra with
  | none =>
    simp only [extraPieces, List.flatMap_nil, List.nil_append, List.foldl_cons, List.foldl_nil]
    rw [step_closing bracket _ rfl]
    simp
  | some fs =>
    simp only [extraPieces, List.flatMap_cons, Piece.text, Piece.plain, List.nil_append,
      List.cons_append, List.foldl_cons, List.foldl_append]
    rw [step_comma _ rfl, Keeps.fillers fs _ rfl, List.foldl_nil, step_closing bracket _ rfl]
    -- The open comma lies right behind what was kept of the fillers.
    have dropped (kept : List Char) : (((fillers fs).flatMap Piece.plain).reverse ++
        ',' :: kept).eraseIdx ((fillers fs).flatMap Piece.plain).length =
        ((fillers fs).flatMap Piece.plain).reverse ++ kept := by
      rw [List.eraseIdx_append_of_length_le (by simp)]
      simp
    simp only [Option.map_some, Option.elim_some, Nat.zero_add, dropped]
    simp

theorem Settles.keyword (word : Keyword) : Settles word.text word.text := by
  refine Settles.ordinary (Token.text_ne_nil (.keyword word)) fun c there => ?_
  have letter : c ∈ ['n', 'u', 'l', 't', 'r', 'e', 'f', 'a', 's'] := by
    rcases word with _ | _ | _ <;> simp only [Keyword.text, List.mem_cons] at there ⊢ <;> tauto
  simp only [List.mem_cons, List.not_mem_nil, or_false] at letter
  rcases letter with rfl | rfl | rfl | rfl | rfl | rfl | rfl | rfl | rfl <;> decide

theorem ordinary_of_isDigit {c : Char} (digit : Reader.isDigit c = true) : Ordinary c :=
  of_isDigit digit (by decide)

/-- Digits, signs, points and exponent marks are ordinary. -/
theorem ordinary_of_mem_numeral (n : Numeral) : ∀ c ∈ n.text, Ordinary c :=
  n.forall_mem_text (fun _ => ordinary_of_isDigit) (by decide) (by decide) (by decide)

theorem Settles.numeral (n : Numeral) : Settles n.text n.text := by
  refine Settles.ordinary ?_ (ordinary_of_mem_numeral n)
  simp [Numeral.text, n.whole.some_]

theorem Settles.opening (bracket : Bracket) : Settles [bracket.opening] [bracket.opening] :=
  step_ordinary (by cases bracket <;> decide)

/-- A label before a settled text is kept. -/
theorem Settles.labelled {text out : List Char} (h : Settles text out) {bracket : Bracket}
    (label : Label bracket) :
    Settles (label.pieces.flatMap Piece.text ++ text)
      (label.pieces.flatMap Piece.plain ++ out) := by
  cases bracket with
  | array => exact h
  | object =>
    have colon : Settles [':'] [':'] := step_ordinary (by decide)
    have name := (((Settles.literal label.parts).append_keeps
      (Keeps.fillers label.beforeColon)).append colon).append_keeps (Keeps.fillers label.afterColon)
    simpa [Label.pieces, Piece.text, Piece.plain, Token.text] using name.append h

mutual

/-- The pass settles a value: it keeps the value without its comments and extra commas. -/
theorem Tree.settles : (t : Tree) →
    Settles (t.pieces.flatMap Piece.text) (t.pieces.flatMap Piece.plain)
  | .keyword word => by
    simpa [Tree.pieces, Piece.text, Piece.plain, Token.text] using Settles.keyword word
  | .number n => by
    simpa [Tree.pieces, Piece.text, Piece.plain, Token.text] using Settles.numeral n
  | .literal parts => by
    simpa [Tree.pieces, Piece.text, Piece.plain] using Settles.literal parts
  | .empty bracket gap => by
    have opened := (Settles.opening bracket).append_keeps (Keeps.fillers gap)
    simpa [Tree.pieces, Piece.text, Piece.plain, Token.text, extraPieces] using
      opened.close bracket none
  | .full bracket entries => by
    simpa [Tree.pieces, Piece.text, Piece.plain, Token.text] using
      (Settles.opening bracket).append entries.settles

/-- The pass settles the entries of a bracket pair with its closing bracket. -/
theorem Entries.settles {bracket : Bracket} : (entries : Entries bracket) →
    Settles (entries.pieces.flatMap Piece.text ++ [bracket.closing])
      (entries.pieces.flatMap Piece.plain ++ [bracket.closing])
  | .last before label value after extra => by
    have value_ := (value.settles.append_keeps (Keeps.fillers after)).close bracket extra
    simpa [Entries.pieces] using (Keeps.fillers before).append_settles (value_.labelled label)
  | .more before label value after rest => by
    have value_ := (value.settles.append_keeps (Keeps.fillers after)).append rest.settles.comma
    simpa [Entries.pieces, Piece.text, Piece.plain, Token.text] using
      (Keeps.fillers before).append_settles (value_.labelled label)

end

/-- Stripping a document deletes its comments and extra commas, and nothing else. -/
theorem Document.plainText_text (d : Document) : plainText d.text = d.plain := by
  have pieces : Settles (d.pieces.flatMap Piece.text) (d.pieces.flatMap Piece.plain) := by
    simpa [pieces] using (Keeps.fillers d.before).append_settles
      (d.value.settles.append_keeps (Keeps.fillers d.after))
  have whole := pieces {} rfl
  rw [plainText, text, List.foldl_append, whole]
  cases tail : d.tail with
  | none => simp [Pass.finish, plain]
  | some body =>
    have opened (kept : List Char) : Pass.step (Pass.step ⟨.plain, kept, none⟩ '/') '/' =
        ⟨.line, kept, none⟩ := by
      simp [Pass.step, Pass.plainStep]
    rw [Option.elim_some, List.foldl_cons, List.foldl_cons, opened,
      foldl_line (d.tail_one body tail) _ rfl]
    simp [Pass.finish, plain]

-- Marks inside a literal are none, and marks of literals inside a comment are none.
example : plainText "[1, /* \"x\" */ \"//,\", // y\n]".toList = "[1,  \"//,\" \n]".toList := by
  decide

end RemoteAttach.Json.Commented
