import RemoteAttach.Proofs.Json.Separated.Tokens

/-! Stripping as two passes over a text, of any form. The first deletes the comments; the second
looks ahead from each comma for a closing bracket, and deletes the comma if nothing but blanks is
before the bracket. -/

namespace RemoteAttach.Json.Commented

open RemoteAttach.Text

mutual

/-- The text without its comments. The newline that ends a line comment stays. -/
def withoutComments : List Char → List Char
  | [] => []
  | '/' :: '/' :: rest => afterLineComment rest
  | '/' :: '*' :: rest => afterBlockComment rest
  | '"' :: rest => '"' :: literalWithoutComments rest
  | c :: rest => c :: withoutComments rest

/-- What is left of a text that begins inside a line comment. -/
def afterLineComment : List Char → List Char
  | [] => []
  | '\n' :: rest => '\n' :: withoutComments rest
  | _ :: rest => afterLineComment rest

/-- What is left of a text that begins inside a block comment. -/
def afterBlockComment : List Char → List Char
  | [] => []
  | '*' :: '/' :: rest => withoutComments rest
  | _ :: rest => afterBlockComment rest

/-- What is left of a text that begins inside a string literal. -/
def literalWithoutComments : List Char → List Char
  | [] => []
  | '"' :: rest => '"' :: withoutComments rest
  | '\\' :: c :: rest => '\\' :: c :: literalWithoutComments rest
  | c :: rest => c :: literalWithoutComments rest

end

/-- Tells whether a closing bracket comes next, blanks aside. -/
def closingNext (text : List Char) : Bool :=
  match text.dropWhile isBlank with
  | ']' :: _ | '\x7d' :: _ => true
  | _ => false

mutual

/-- The text without the commas outside string literals after which, blanks aside, a closing bracket
comes. -/
def withoutExtraCommas : List Char → List Char
  | [] => []
  | '"' :: rest => '"' :: literalWithoutExtraCommas rest
  | ',' :: rest =>
    if closingNext rest then withoutExtraCommas rest else ',' :: withoutExtraCommas rest
  | c :: rest => c :: withoutExtraCommas rest

/-- What is left of a text that begins inside a string literal. -/
def literalWithoutExtraCommas : List Char → List Char
  | [] => []
  | '"' :: rest => '"' :: withoutExtraCommas rest
  | '\\' :: c :: rest => '\\' :: c :: literalWithoutExtraCommas rest
  | c :: rest => c :: literalWithoutExtraCommas rest

end

/-! ### The first pass -/

/-- The first pass keeps the parts of a text that are no comments. -/
theorem withoutComments_eq (text : List Char) :
    withoutComments text = (partsOf text).flatMap (Part.text []) := by
  have all : (∀ text, withoutComments text = (partsOf text).flatMap (Part.text [])) ∧
      (∀ read text, '"' :: (read.reverse.flatMap LiteralPart.text ++ literalWithoutComments text) =
        (afterQuote read text).flatMap (Part.text [])) ∧
      (∀ text, afterBlockComment text = (afterBlock text).flatMap (Part.text [])) ∧
      ∀ text, afterLineComment text = (afterLine text).flatMap (Part.text []) := by
    apply partsOf.mutual_induct
    case case1 => rfl
    case case2 => exact fun rest ih => ih
    case case3 => exact fun rest ih => ih
    case case4 => exact fun rest ih => ih
    case case5 =>
      intro c rest noLine noBlock noQuote ih
      rw [partsOf.eq_5 c rest noLine noBlock noQuote,
        withoutComments.eq_5 c rest noLine noBlock noQuote, ih]
      rfl
    case case6 =>
      intro read
      simp [literalWithoutComments, afterQuote, Part.text]
    case case7 =>
      intro read rest ih
      rw [afterQuote_quote, literalWithoutComments, ih]
      simp [Part.text, Token.text]
    case case8 =>
      intro read _
      simp [literalWithoutComments, afterQuote, Part.text]
    case case9 =>
      intro read d rest _ ih
      rw [afterQuote_escape, ← ih, literalWithoutComments]
      simp [LiteralPart.text]
    case case10 =>
      intro read d rest quote escape ih
      rw [afterQuote_char read quote escape, ← ih,
        literalWithoutComments.eq_4 d rest quote (fun _ _ same => absurd same escape)]
      simp [LiteralPart.text]
    case case11 => rfl
    case case12 => exact fun rest ih => ih
    case case13 =>
      intro c rest noEnd ih
      rw [afterBlock.eq_3 c rest noEnd, afterBlockComment.eq_3 c rest noEnd, ih]
    case case14 => rfl
    case case15 =>
      intro rest ih
      rw [afterLine, afterLineComment, ih]
      rfl
    case case16 =>
      intro c rest noEnd ih
      rw [afterLine.eq_3 c rest noEnd, afterLineComment.eq_3 c rest noEnd, ih]
  exact all.1 text

/-! ### The second pass -/

theorem closingNext_blank {c : Char} (blank : isBlank c = true) (text : List Char) :
    closingNext (c :: text) = closingNext text := by
  rw [closingNext, List.dropWhile_cons_of_pos blank]
  rfl

theorem closingNext_solid {c : Char} (solid : isBlank c = false) (text : List Char) :
    closingNext (c :: text) = (c = ']' || c = '\x7d' : Bool) := by
  rw [closingNext, List.dropWhile_cons_of_neg (by simp [solid])]
  split
  · rename_i same
    obtain ⟨rfl, -⟩ := List.cons.inj same
    rfl
  · rename_i same
    obtain ⟨rfl, -⟩ := List.cons.inj same
    rfl
  · rename_i square curly
    simp_all

/-- Where comments are gone, only blanks come before a closing bracket. -/
theorem closingNext_parts (parts : List Part) :
    closingNext (parts.flatMap (Part.text [])) = closes parts := by
  induction parts with
  | nil => rfl
  | cons part parts ih =>
    cases part with
    | char c =>
      rw [closes]
      split
      · rename_i blank
        exact (closingNext_blank blank _).trans ih
      · rename_i solid
        exact closingNext_solid (Bool.eq_false_iff.mpr solid) _
    | comment ended => exact ih
    | literal ps => exact closingNext_solid (by decide) _
    | cut ps escape => exact closingNext_solid (by decide) _

/-- Inside a string literal nothing is deleted. -/
theorem literalWithoutExtraCommas_append (parts : List LiteralPart) (text : List Char) :
    literalWithoutExtraCommas (parts.flatMap LiteralPart.text ++ text) =
      parts.flatMap LiteralPart.text ++ literalWithoutExtraCommas text := by
  induction parts with
  | nil => rfl
  | cons part parts ih =>
    rw [List.flatMap_cons, List.append_assoc]
    cases part with
    | char c plain =>
      rw [LiteralPart.text, List.singleton_append,
        literalWithoutExtraCommas.eq_4 c _ plain.1 (fun _ _ same => absurd same plain.2), ih]
      rfl
    | escape c =>
      simp only [LiteralPart.text, List.cons_append, List.nil_append]
      rw [literalWithoutExtraCommas, ih]

/-- The second pass deletes the commas that come before a closing bracket. -/
theorem withoutExtraCommas_eq {parts : List Part} (lexed : Lexed parts) :
    withoutExtraCommas (parts.flatMap (Part.text [])) =
      (withoutCommas parts).flatMap (Part.text []) := by
  induction parts with
  | nil => rfl
  | cons part parts ih =>
    rw [List.flatMap_cons]
    cases part with
    | char c =>
      obtain ⟨noQuote, lexed⟩ := lexed
      by_cases comma : c = ','
      · subst comma
        rw [Part.text, List.singleton_append, withoutExtraCommas, closingNext_parts, withoutCommas,
          ih lexed]
        split
        · rfl
        · rfl
      · rw [Part.text, List.singleton_append, withoutExtraCommas.eq_4 c _ noQuote comma,
          withoutCommas_char comma, ih lexed]
        rfl
    | comment ended => exact ih lexed
    | literal ps =>
      have inside := literalWithoutExtraCommas_append ps ('"' :: parts.flatMap (Part.text []))
      rw [literalWithoutExtraCommas, ih lexed] at inside
      simpa [Part.text, Token.text, withoutExtraCommas, withoutCommas] using inside
    | cut ps escape =>
      obtain rfl : parts = [] := lexed
      have inside := literalWithoutExtraCommas_append ps (if escape then ['\\'] else [])
      cases escape <;>
        simpa [Part.text, withoutExtraCommas, withoutCommas, literalWithoutExtraCommas] using inside

/-- Stripping any text deletes its comments, and then the commas before closing brackets. -/
theorem strip_eq_passes (text : String) :
    strip text = String.ofList (withoutExtraCommas (withoutComments text.toList)) := by
  rw [strip, plainText_eq, withoutComments_eq, withoutExtraCommas_eq (lexed_partsOf text.toList)]

-- Two commas in a row, a stray solidus, and a literal and an escape that the end of the text cuts short.
example : withoutExtraCommas (withoutComments "[,,/*]*/ ] / \"//,]\\".toList) =
    "[, ] / \"//,]\\".toList := by decide

end RemoteAttach.Json.Commented
