import Mathlib
import RemoteAttach.Proofs.Json.Separated.Tokens

/-! Stripped texts. What stripping leaves holds no comment mark outside its string literals, and its
string literals are those that the text has outside its comments. Stripping it once more deletes
commas only where two of them come before a closing bracket, for the first time deletes one of
those. -/

namespace RemoteAttach.Json.Commented

open RemoteAttach.Text

/-! ### Texts without comments -/

mutual

/-- The parts of a text in which nothing is a comment, whatever stands outside its string
literals. -/
def literalPartsOf : List Char → List Part
  | [] => []
  | '"' :: rest => literalAfterQuote [] rest
  | c :: rest => .char c :: literalPartsOf rest

/-- The parts of a text that begins inside a string literal, whose parts so far are `read`, last
first, and in which nothing is a comment. -/
def literalAfterQuote (read : List LiteralPart) : List Char → List Part
  | [] => [.cut read.reverse false]
  | c :: rest =>
    if plain : c ≠ '"' ∧ c ≠ '\\' then literalAfterQuote (.char c plain :: read) rest
    else if c = '"' then .literal read.reverse :: literalPartsOf rest
    else
      match rest with
      | [] => [.cut read.reverse true]
      | d :: rest => literalAfterQuote (.escape d :: read) rest

end

/-- Tells whether a part is a string literal, perhaps one that the end of the text cuts short. -/
def Part.isLiteral : Part → Bool
  | literal _ | cut _ _ => true
  | char _ | comment _ => false

/-- Tells whether a part is a comment. -/
def Part.isComment : Part → Bool
  | comment _ => true
  | char _ | literal _ | cut _ _ => false

/-- Somewhere outside string literals two characters begin a comment. -/
def HasMark (parts : List Part) : Prop :=
  [.char '/', .char '/'] <:+: parts ∨ [.char '/', .char '*'] <:+: parts

/-- What comes after the next comma, if only blanks and comments come before that comma. -/
def afterComma? : List Part → Option (List Part)
  | .char c :: rest => if isBlank c then afterComma? rest else if c = ',' then some rest else none
  | .comment _ :: rest => afterComma? rest
  | _ => none

/-- Tells whether no two commas have only blanks and comments between them. -/
def commasApart : List Part → Bool
  | [] => true
  | .char ',' :: rest => (afterComma? rest).isNone && commasApart rest
  | _ :: rest => commasApart rest

/-- Tells whether somewhere two commas and then a closing bracket have only blanks and comments
between them. -/
def closesTwice : List Part → Bool
  | [] => false
  | .char ',' :: rest => (afterComma? rest).any closes || closesTwice rest
  | _ :: rest => closesTwice rest

/-- The parts that stripping keeps. -/
def stripped (parts : List Part) : List Part :=
  (withoutCommas parts).filter (!·.isComment)

theorem literalAfterQuote_char (read : List LiteralPart) {c : Char}
    (plain : c ≠ '"' ∧ c ≠ '\\') (rest : List Char) :
    literalAfterQuote read (c :: rest) = literalAfterQuote (.char c plain :: read) rest := by
  rw [literalAfterQuote.eq_def]
  exact dif_pos plain

theorem literalAfterQuote_quote (read : List LiteralPart) (rest : List Char) :
    literalAfterQuote read ('"' :: rest) = .literal read.reverse :: literalPartsOf rest := by
  rw [literalAfterQuote.eq_def]
  rfl

theorem literalAfterQuote_escape (read : List LiteralPart) (c : Char) (rest : List Char) :
    literalAfterQuote read ('\\' :: c :: rest) = literalAfterQuote (.escape c :: read) rest := by
  rw [literalAfterQuote.eq_def]
  rfl

/-- The characters of a string literal are read as its parts. -/
theorem literalAfterQuote_append (read parts : List LiteralPart) (text : List Char) :
    literalAfterQuote read (parts.flatMap LiteralPart.text ++ text) =
      literalAfterQuote (parts.reverse ++ read) text := by
  induction parts generalizing read with
  | nil => rfl
  | cons part parts ih =>
    rw [List.flatMap_cons, List.append_assoc, List.reverse_cons, List.append_assoc]
    cases part with
    | char c plain =>
      rw [LiteralPart.text, List.singleton_append, literalAfterQuote_char read plain, ih]
      rfl
    | escape c =>
      rw [LiteralPart.text, List.cons_append, List.cons_append, List.nil_append,
        literalAfterQuote_escape, ih]
      rfl

/-- Where nothing is a comment, a text without its comments has the parts that are left. -/
theorem literalPartsOf_text {parts : List Part} (lexed : Lexed parts) :
    literalPartsOf (parts.flatMap (Part.text [])) = parts.filter (!·.isComment) := by
  induction parts with
  | nil => rfl
  | cons part parts ih =>
    rw [List.flatMap_cons]
    cases part with
    | char c =>
      obtain ⟨noQuote, lexed⟩ := lexed
      rw [Part.text, List.singleton_append, literalPartsOf.eq_3 c _ noQuote, ih lexed]
      rfl
    | comment ended => exact ih lexed
    | literal ps =>
      rw [Part.text, Token.text, List.cons_append, literalPartsOf, List.append_assoc,
        literalAfterQuote_append, List.singleton_append, literalAfterQuote_quote, ih lexed]
      simp [Part.isComment]
    | cut ps escape =>
      obtain rfl : parts = [] := lexed
      rw [Part.text, List.flatMap_nil, List.append_nil, literalPartsOf, literalAfterQuote_append]
      cases escape <;> simp [literalAfterQuote, Part.isComment]

theorem HasMark.cons {parts : List Part} (part : Part) (h : HasMark parts) :
    HasMark (part :: parts) :=
  h.imp List.infix_cons List.infix_cons

/-- Without comment marks outside its string literals, a text has no comments. -/
theorem partsOf_eq_literalPartsOf {text : List Char} (noMark : ¬ HasMark (literalPartsOf text)) :
    partsOf text = literalPartsOf text := by
  have all : (∀ text, ¬ HasMark (literalPartsOf text) → partsOf text = literalPartsOf text) ∧
      ∀ read text, ¬ HasMark (literalAfterQuote read text) →
        afterQuote read text = literalAfterQuote read text := by
    apply literalPartsOf.mutual_induct
    case case1 => exact fun _ => rfl
    case case2 => exact fun rest ih => ih
    case case3 =>
      intro c rest noQuote ih noMark
      rw [literalPartsOf.eq_3 c rest noQuote] at noMark ⊢
      have noLine (more : List Char) (solidus : c = '/') : rest ≠ '/' :: more := by
        rintro rfl
        subst solidus
        rw [literalPartsOf.eq_3 _ _ (by decide)] at noMark
        exact noMark (.inl ⟨[], literalPartsOf more, rfl⟩)
      have noBlock (more : List Char) (solidus : c = '/') : rest ≠ '*' :: more := by
        rintro rfl
        subst solidus
        rw [literalPartsOf.eq_3 _ _ (by decide)] at noMark
        exact noMark (.inr ⟨[], literalPartsOf more, rfl⟩)
      rw [partsOf.eq_5 c rest noLine noBlock noQuote, ih fun mark => noMark (mark.cons _)]
    case case4 => exact fun read _ => rfl
    case case5 =>
      intro read c rest plain ih noMark
      rw [literalAfterQuote_char read plain] at noMark ⊢
      rw [afterQuote_char read plain.1 plain.2, ih noMark]
    case case6 =>
      intro read rest _ ih noMark
      rw [literalAfterQuote_quote] at noMark ⊢
      rw [afterQuote_quote, ih fun mark => noMark (mark.cons _)]
    case case7 =>
      intro read c noPlain noQuote _
      obtain rfl : c = '\\' := by simpa [noQuote] using noPlain
      rfl
    case case8 =>
      intro read c noPlain noQuote d rest ih noMark
      obtain rfl : c = '\\' := by simpa [noQuote] using noPlain
      rw [literalAfterQuote_escape] at noMark ⊢
      rw [afterQuote_escape, ih noMark]
  exact all.1 text noMark

/-! ### What stripping brings together -/

/-- Parts that may come one after the other in a text: no comment and no second character of a
comment mark comes right after a solidus outside string literals. -/
def Part.MayPrecede (first second : Part) : Prop :=
  first = .char '/' → second.isComment = false ∧ second ≠ .char '/' ∧ second ≠ .char '*'

theorem Part.MayPrecede.of_isLiteral {second : Part} (literal : second.isLiteral = true)
    (first : Part) : first.MayPrecede second := by
  intro _
  cases second with
  | char c | comment ended => cases literal
  | literal ps | cut ps escape => exact ⟨rfl, by simp, by simp⟩

theorem isChain_cons_of_ne {part : Part} {parts : List Part} (other : part ≠ .char '/')
    (chain : parts.IsChain Part.MayPrecede) : (part :: parts).IsChain Part.MayPrecede :=
  List.isChain_cons.mpr ⟨fun _ _ solidus => absurd solidus other, chain⟩

/-- In a text no comment and no second character of a comment mark comes right after a solidus that
opens no comment. -/
theorem isChain_partsOf (text : List Char) : (partsOf text).IsChain Part.MayPrecede := by
  -- The first character ahead tells what comes right after a solidus that opens no comment.
  have all : (∀ text, (partsOf text).IsChain Part.MayPrecede ∧
        (text.head? ≠ some '/' → text.head? ≠ some '*' →
          ∀ part ∈ (partsOf text).head?, (Part.char '/').MayPrecede part)) ∧
      (∀ read text, (afterQuote read text).IsChain Part.MayPrecede ∧
        ∀ part ∈ (afterQuote read text).head?, part.isLiteral = true) ∧
      (∀ text, (afterBlock text).IsChain Part.MayPrecede) ∧
      ∀ text, (afterLine text).IsChain Part.MayPrecede := by
    apply partsOf.mutual_induct
    case case1 => exact ⟨.nil, fun _ _ part first => by cases first⟩
    case case2 => exact fun rest ih => ⟨ih, fun line => absurd rfl line⟩
    case case3 => exact fun rest ih => ⟨ih, fun line => absurd rfl line⟩
    case case4 =>
      exact fun rest ih => ⟨ih.1, fun _ _ part first => .of_isLiteral (ih.2 part first) _⟩
    case case5 =>
      intro c rest noLine noBlock noQuote ih
      rw [partsOf.eq_5 c rest noLine noBlock noQuote]
      refine ⟨List.isChain_cons.mpr ⟨fun part first => ?_, ih.1⟩,
        fun line block part first => ?_⟩
      · by_cases solidus : c = '/'
        · subst solidus
          refine ih.2 (fun line => ?_) (fun block => ?_) part first
          · obtain ⟨more, rfl⟩ := List.head?_eq_some_iff.mp line
            exact noLine more rfl rfl
          · obtain ⟨more, rfl⟩ := List.head?_eq_some_iff.mp block
            exact noBlock more rfl rfl
        · exact fun same => absurd (Part.char.inj same) solidus
      · obtain rfl := Option.some.inj first
        exact fun _ => ⟨rfl, by simpa using line, by simpa using block⟩
    case case6 =>
      exact fun read => ⟨.singleton _, fun part first => Option.some.inj first ▸ rfl⟩
    case case7 =>
      intro read rest ih
      rw [afterQuote_quote]
      exact ⟨isChain_cons_of_ne (by simp) ih.1, fun part first => Option.some.inj first ▸ rfl⟩
    case case8 =>
      exact fun read _ => ⟨.singleton _, fun part first => Option.some.inj first ▸ rfl⟩
    case case9 =>
      intro read c rest _ ih
      rwa [afterQuote_escape]
    case case10 =>
      intro read c rest quote escape ih
      rwa [afterQuote_char read quote escape]
    case case11 => exact .singleton _
    case case12 => exact fun rest ih => isChain_cons_of_ne (by simp) ih.1
    case case13 =>
      intro c rest noEnd ih
      rwa [afterBlock.eq_3 c rest noEnd]
    case case14 => exact .singleton _
    case case15 =>
      intro rest ih
      exact isChain_cons_of_ne (by simp) (isChain_cons_of_ne (by simp) ih.1)
    case case16 =>
      intro c rest noEnd ih
      rwa [afterLine.eq_3 c rest noEnd]
  exact (all.1 text).1

/-- Without commas and comments, only a blank or a closing bracket comes first where nothing but
blanks and comments comes before a closing bracket. -/
theorem head_stripped_of_closes {parts : List Part} (closing : closes parts = true) :
    ∀ part ∈ (stripped parts).head?, ∀ first : Part, first.MayPrecede part := by
  induction parts with
  | nil => cases closing
  | cons part parts ih =>
    cases part with
    | char c =>
      have other : c ≠ ',' ∧ c ≠ '/' ∧ c ≠ '*' := by
        refine ⟨?_, ?_, ?_⟩ <;> (rintro rfl; cases closing)
      intro part first
      rw [stripped, withoutCommas_char other.1] at first
      obtain rfl := Option.some.inj first
      exact fun _ _ => ⟨rfl, by simpa using other.2.1, by simpa using other.2.2⟩
    | comment ended => exact ih closing
    | literal ps | cut ps escape => cases closing

theorem stripped_char {c : Char} {parts : List Part} (other : c ≠ ',') :
    stripped (.char c :: parts) = .char c :: stripped parts := by
  rw [stripped, withoutCommas_char other]
  rfl

theorem stripped_comma (parts : List Part) :
    stripped (.char ',' :: parts) =
      if closes parts then stripped parts else .char ',' :: stripped parts := by
  rw [stripped, withoutCommas]
  split <;> rfl

/-- What comes first after a part still may once the commas and comments are gone. -/
theorem head_stripped {part : Part} {parts : List Part}
    (chain : (part :: parts).IsChain Part.MayPrecede) :
    ∀ next ∈ (stripped parts).head?, part.MayPrecede next := by
  intro next first solidus
  subst solidus
  cases parts with
  | nil => cases first
  | cons second parts =>
    have may := (List.isChain_cons.mp chain).1 second rfl rfl
    cases second with
    | char c =>
      by_cases comma : c = ','
      · subst comma
        rw [stripped_comma] at first
        split at first
        · rename_i closing
          exact head_stripped_of_closes closing next first _ rfl
        · obtain rfl := Option.some.inj first
          exact may
      · rw [stripped_char comma] at first
        obtain rfl := Option.some.inj first
        exact may
    | comment ended => cases may.1
    | literal ps | cut ps escape =>
      obtain rfl := Option.some.inj first
      exact may

theorem isChain_stripped {parts : List Part} (chain : parts.IsChain Part.MayPrecede) :
    (stripped parts).IsChain Part.MayPrecede := by
  induction parts with
  | nil => exact .nil
  | cons part parts ih =>
    have first := head_stripped chain
    have rest := ih (List.isChain_cons.mp chain).2
    have keeps : (part :: stripped parts).IsChain Part.MayPrecede :=
      List.isChain_cons.mpr ⟨first, rest⟩
    cases part with
    | char c =>
      by_cases comma : c = ','
      · subst comma
        rw [stripped_comma]
        split
        · exact rest
        · exact keeps
      · rwa [stripped_char comma]
    | comment ended => exact rest
    | literal ps | cut ps escape => exact keeps

theorem not_hasMark_of_isChain {parts : List Part} (chain : parts.IsChain Part.MayPrecede) :
    ¬ HasMark parts := by
  rintro (mark | mark)
  · have pair := List.IsChain.infix chain mark
    exact (List.isChain_pair.mp pair rfl).2.1 rfl
  · have pair := List.IsChain.infix chain mark
    exact (List.isChain_pair.mp pair rfl).2.2 rfl

/-! ### What is left of a text -/

theorem filter_isLiteral_stripped (parts : List Part) :
    (stripped parts).filter Part.isLiteral = parts.filter Part.isLiteral := by
  induction parts with
  | nil => rfl
  | cons part parts ih =>
    cases part with
    | char c =>
      by_cases comma : c = ','
      · subst comma
        rw [stripped_comma]
        split <;> exact ih
      · rw [stripped_char comma]
        exact ih
    | comment ended => exact ih
    | literal ps => exact congrArg (Part.literal ps :: ·) ih
    | cut ps escape => exact congrArg (Part.cut ps escape :: ·) ih

theorem text_filter_isComment (parts : List Part) :
    (parts.filter (!·.isComment)).flatMap (Part.text []) = parts.flatMap (Part.text []) := by
  induction parts with
  | nil => rfl
  | cons part parts ih =>
    cases part with
    | comment ended => exact ih
    | char c | literal ps | cut ps escape => exact congrArg (_ ++ ·) ih

theorem Lexed.withoutCommas {parts : List Part} (h : Lexed parts) :
    Lexed (withoutCommas parts) := by
  induction parts with
  | nil => trivial
  | cons part parts ih =>
    cases part with
    | char c =>
      by_cases comma : c = ','
      · subst comma
        rw [Commented.withoutCommas]
        split
        · exact ih h.2
        · exact ⟨h.1, ih h.2⟩
      · rw [withoutCommas_char comma]
        exact ⟨h.1, ih h.2⟩
    | comment ended | literal ps => exact ih h
    | cut ps escape =>
      obtain rfl : parts = [] := h
      rfl

theorem plainText_eq_stripped (text : List Char) :
    plainText text = (stripped (partsOf text)).flatMap (Part.text []) := by
  rw [plainText_eq, stripped, text_filter_isComment]

/-- What stripping leaves of a text has the parts that it keeps, where nothing is a comment. -/
theorem literalPartsOf_plainText (text : List Char) :
    literalPartsOf (plainText text) = stripped (partsOf text) := by
  rw [plainText_eq, literalPartsOf_text (lexed_partsOf text).withoutCommas, stripped]

theorem not_hasMark_plainText (text : List Char) :
    ¬ HasMark (literalPartsOf (plainText text)) := by
  rw [literalPartsOf_plainText]
  exact not_hasMark_of_isChain (isChain_stripped (isChain_partsOf text))

/-- What stripping leaves of a text has the parts that it keeps. -/
theorem partsOf_plainText (text : List Char) :
    partsOf (plainText text) = stripped (partsOf text) := by
  rw [partsOf_eq_literalPartsOf (not_hasMark_plainText text), literalPartsOf_plainText]

/-! ### Stripping once more -/

theorem withoutCommas_eq {parts : List Part} (none_ : endsInComma parts = false) :
    withoutCommas parts = parts := by
  induction parts with
  | nil => rfl
  | cons part parts ih =>
    by_cases comma : part = .char ','
    · subst comma
      rw [endsInComma, Bool.or_eq_false_iff] at none_
      rw [withoutCommas, if_neg (by simp [none_.1]), ih none_.2]
    · rw [endsInComma.eq_3 _ _ comma] at none_
      rw [withoutCommas.eq_3 _ _ comma, ih none_]

/-- A comma that comes before a closing bracket makes the text shorter. -/
theorem length_withoutCommas (parts : List Part) :
    ((withoutCommas parts).flatMap (Part.text [])).length + (endsInComma parts).toNat ≤
      (parts.flatMap (Part.text [])).length := by
  induction parts with
  | nil => simp [withoutCommas, endsInComma]
  | cons part parts ih =>
    have atMost := (endsInComma parts).toNat_le
    by_cases comma : part = .char ','
    · subst comma
      rw [withoutCommas, endsInComma]
      cases closes parts <;>
        simp only [Bool.true_or, Bool.false_or, Bool.toNat_true, if_true, Bool.false_eq_true,
          if_false, List.flatMap_cons, Part.text, List.singleton_append, List.length_cons] <;>
        omega
    · rw [withoutCommas.eq_3 _ _ comma, endsInComma.eq_3 _ _ comma]
      simp only [List.flatMap_cons, List.length_append]
      omega

theorem text_withoutCommas_eq_iff (parts : List Part) :
    (withoutCommas parts).flatMap (Part.text []) = parts.flatMap (Part.text []) ↔
      endsInComma parts = false := by
  constructor
  · intro same
    have shorter := length_withoutCommas parts
    rw [same] at shorter
    cases ends : endsInComma parts with
    | false => rfl
    | true =>
      rw [ends] at shorter
      exact absurd shorter (by simp)
  · exact fun none_ => congrArg (List.flatMap (Part.text [])) (withoutCommas_eq none_)

theorem afterComma?_of_closes {parts : List Part} (closing : closes parts = true) :
    afterComma? parts = none := by
  induction parts with
  | nil => cases closing
  | cons part parts ih =>
    cases part with
    | char c =>
      rw [closes] at closing
      rw [afterComma?]
      split at closing
      · rename_i blank
        rw [if_pos blank, ih closing]
      · rename_i solid
        have other : c ≠ ',' := by
          rintro rfl
          cases closing
        rw [if_neg solid, if_neg other]
    | comment ended => exact ih closing
    | literal ps | cut ps escape => cases closing

/-- Once stripped, what comes before a closing bracket is what did so before, also past a comma that
is gone. -/
theorem closes_stripped (parts : List Part) :
    closes (stripped parts) = (closes parts || (afterComma? parts).any closes) := by
  induction parts with
  | nil => rfl
  | cons part parts ih =>
    cases part with
    | char c =>
      by_cases comma : c = ','
      · subst comma
        have solid : closes (.char ',' :: parts) = false ∧
            afterComma? (.char ',' :: parts) = some parts := ⟨rfl, rfl⟩
        rw [stripped_comma, solid.1, solid.2, Option.any_some, Bool.false_or]
        split
        · rename_i closing
          rw [ih, closing, Bool.true_or]
        · rename_i open_
          rw [Bool.eq_false_iff.mpr open_]
          rfl
      · rw [stripped_char comma, closes, closes, afterComma?]
        split
        · exact ih
        · rw [Option.any_none, Bool.or_false]
    | comment ended => exact ih
    | literal ps | cut ps escape => rfl

/-- A comma that comes before a closing bracket once the text is stripped came before another one
that did so. -/
theorem endsInComma_stripped (parts : List Part) :
    endsInComma (stripped parts) = closesTwice parts := by
  induction parts with
  | nil => rfl
  | cons part parts ih =>
    cases part with
    | char c =>
      by_cases comma : c = ','
      · subst comma
        rw [stripped_comma, closesTwice]
        split
        · rename_i closing
          rw [afterComma?_of_closes closing, ih, Option.any_none, Bool.false_or]
        · rename_i open_
          rw [endsInComma, closes_stripped, ih, Bool.eq_false_iff.mpr open_, Bool.false_or]
      · rw [stripped_char comma, endsInComma.eq_3 _ _ (by simpa using comma), ih,
          closesTwice.eq_3 _ _ (by simpa using comma)]
    | comment ended | literal ps | cut ps escape => exact ih

/-- Stripping a text once more changes nothing exactly if nowhere two commas and then a closing
bracket have only blanks and comments between them. -/
theorem strip_strip_eq_iff (text : String) :
    strip (strip text) = strip text ↔ closesTwice (partsOf text.toList) = false := by
  rw [strip, strip, String.ofList_inj, String.toList_ofList, plainText_eq (plainText text.toList),
    partsOf_plainText, plainText_eq_stripped, text_withoutCommas_eq_iff, endsInComma_stripped]

-- Of two commas before a closing bracket the first time deletes one, and the second time the other.
example : strip "[1, /* x */ ,\n]" = "[1,  \n]" ∧ strip "[1,  \n]" = "[1  \n]" := by cbv

theorem closesTwice_of_commasApart {parts : List Part} (apart : commasApart parts = true) :
    closesTwice parts = false := by
  induction parts with
  | nil => rfl
  | cons part parts ih =>
    by_cases comma : part = .char ','
    · subst comma
      rw [commasApart, Bool.and_eq_true, Option.isNone_iff_eq_none] at apart
      rw [closesTwice, apart.1, ih apart.2]
      rfl
    · rw [commasApart.eq_3 _ _ comma] at apart
      rw [closesTwice.eq_3 _ _ comma, ih apart]

/-- What stripping leaves of a text has no comment mark outside its string literals, which are those
of the text outside its comments; and it stays as it is when it is stripped again, if no two commas
of the text have only blanks and comments between them. -/
theorem strip_leaves_literals (text : String) :
    ¬ HasMark (literalPartsOf (strip text).toList) ∧
      (literalPartsOf (strip text).toList).filter Part.isLiteral =
        (partsOf text.toList).filter Part.isLiteral ∧
      (commasApart (partsOf text.toList) = true → strip (strip text) = strip text) := by
  refine ⟨?_, ?_, fun apart => (strip_strip_eq_iff text).mpr (closesTwice_of_commasApart apart)⟩
  · rw [strip, String.toList_ofList]
    exact not_hasMark_plainText text.toList
  · rw [strip, String.toList_ofList, literalPartsOf_plainText, filter_isLiteral_stripped]

-- A quote inside a comment, marks inside string literals, and one of these without its end.
theorem strip_leaves_literals_cut :
    commasApart (partsOf "[\"//,]\", 1 /* \", */ , // x\n ] / /**/ \"\\\"/*".toList) = true ∧
      strip (strip "[\"//,]\", 1 /* \", */ , // x\n ] / /**/ \"\\\"/*") =
        strip "[\"//,]\", 1 /* \", */ , // x\n ] / /**/ \"\\\"/*" := by
  have apart : commasApart
      (partsOf "[\"//,]\", 1 /* \", */ , // x\n ] / /**/ \"\\\"/*".toList) = true := by cbv
  exact ⟨apart, (strip_leaves_literals _).2.2 apart⟩

end RemoteAttach.Json.Commented
