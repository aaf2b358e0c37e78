import RemoteAttach.Proofs.Json.Moves
import RemoteAttach.Proofs.Json.Separated

/-! The tokens that the parts of a text carry. With a blank for each comment the text has exactly
these tokens; with nothing for a comment it has them too unless a comment divides a word, and if the
tokens are in order then none does. -/

namespace RemoteAttach.Json.Commented

open RemoteAttach.Text

/-! ### Characters of tokens -/

theorem isWord_keyword (k : Keyword) : ∀ c ∈ k.text, isWord c = true := by
  have all : k.text.all isWord = true := by rcases k with _ | _ | _ <;> decide
  exact List.all_eq_true.mp all

theorem isWord_numeral (n : Numeral) : ∀ c ∈ n.text, isWord c = true :=
  n.forall_mem_text (fun c digit => of_isDigit digit (by decide)) (by decide) (by decide)
    (by decide)

theorem isBlank_of_isWord {c : Char} (word : isWord c = true) : isBlank c = false := by
  simp only [isWord, Bool.and_eq_true, Bool.not_eq_eq_eq_not, Bool.not_true] at word
  exact word.1

/-- A token that is no string literal is one mark, or all its characters make a word. -/
theorem mark_or_word {t : Token} {c : Char} {more : List Char} (text : t.text = c :: more)
    (noLiteral : ∀ parts, t ≠ .literal parts) :
    isWord c = false ∧ more = [] ∨
      t.beginsValue = true ∧ t.endsValue = true ∧ ∀ d ∈ c :: more, isWord d = true := by
  cases t with
  | opening bracket | closing bracket =>
    cases bracket <;> (obtain ⟨rfl, rfl⟩ := List.cons.inj text; exact .inl ⟨by decide, rfl⟩)
  | comma | colon => obtain ⟨rfl, rfl⟩ := List.cons.inj text; exact .inl ⟨by decide, rfl⟩
  | keyword k => exact .inr ⟨rfl, rfl, text ▸ isWord_keyword k⟩
  | number n => exact .inr ⟨rfl, rfl, text ▸ isWord_numeral n⟩
  | literal parts => exact absurd rfl (noLiteral parts)

/-- No token begins with a blank of any kind. -/
theorem isBlank_of_text {t : Token} {c : Char} {more : List Char} (text : t.text = c :: more) :
    isBlank c = false := by
  have first : c ∈ t.text := text ▸ List.mem_cons_self
  cases t with
  | opening bracket | closing bracket =>
    cases bracket <;> (obtain ⟨rfl, -⟩ := List.cons.inj text; decide)
  | comma | colon | literal parts => obtain ⟨rfl, -⟩ := List.cons.inj text; decide
  | keyword k => exact isBlank_of_isWord (isWord_keyword k c first)
  | number n => exact isBlank_of_isWord (isWord_numeral n c first)

/-- Only a closing bracket begins like one. -/
theorem eq_closing {t : Token} {c : Char} {more : List Char} (text : t.text = c :: more)
    (bracket : c = ']' ∨ c = '\x7d') : ∃ bracket, t = .closing bracket := by
  have noWord : isWord c ≠ true := by rcases bracket with rfl | rfl <;> decide
  have first : c ∈ t.text := text ▸ List.mem_cons_self
  cases t with
  | closing found => exact ⟨found, rfl⟩
  | opening found =>
    obtain ⟨rfl, -⟩ := List.cons.inj text
    cases found <;> exact absurd bracket (by decide)
  | comma | colon | literal parts =>
    obtain ⟨rfl, -⟩ := List.cons.inj text
    exact absurd bracket (by decide)
  | keyword k => exact absurd (isWord_keyword k c first) noWord
  | number n => exact absurd (isWord_numeral n c first) noWord

/-- Only a comma and string literals have a comma. -/
theorem eq_comma {t : Token} (comma : ',' ∈ t.text) (noLiteral : ∀ parts, t ≠ .literal parts) :
    t = .comma := by
  cases t with
  | comma => rfl
  | opening bracket | closing bracket => cases bracket <;> exact absurd comma (by decide)
  | colon => exact absurd comma (by decide)
  | keyword k => exact absurd (isWord_keyword k ',' comma) (by decide)
  | number n => exact absurd (isWord_numeral n ',' comma) (by decide)
  | literal parts => exact absurd rfl (noLiteral parts)

/-! ### String literals -/

/-- A string literal ends at the first quote that is no part of it. -/
theorem literalParts_inj (ps qs : List LiteralPart) {rest rest' : List Char}
    (eq : ps.flatMap LiteralPart.text ++ '"' :: rest = qs.flatMap LiteralPart.text ++ '"' :: rest') :
    ps = qs ∧ rest = rest' := by
  induction ps generalizing qs with
  | nil =>
    rcases qs with _ | ⟨_ | _, qs⟩
    · simpa using eq
    · rename_i c plain
      exact absurd (List.cons.inj eq).1.symm plain.1
    · cases (List.cons.inj eq).1
  | cons part ps ih =>
    cases part with
    | char c plain =>
      rcases qs with _ | ⟨_ | _, qs⟩
      · exact absurd (List.cons.inj eq).1 plain.1
      · obtain ⟨rfl, more⟩ := List.cons.inj eq
        obtain ⟨rfl, rfl⟩ := ih qs more
        exact ⟨rfl, rfl⟩
      · exact absurd (List.cons.inj eq).1 plain.2
    | escape c =>
      rcases qs with _ | ⟨_ | _, qs⟩
      · cases (List.cons.inj eq).1
      · rename_i d plain
        exact absurd (List.cons.inj eq).1.symm plain.2
      · obtain ⟨rfl, more⟩ := List.cons.inj (List.cons.inj eq).2
        obtain ⟨rfl, rfl⟩ := ih qs more
        exact ⟨rfl, rfl⟩

/-- What is cut short has no quote that ends it. -/
theorem cutParts_ne (ps qs : List LiteralPart) {tail : List Char} (rest : List Char)
    (cut : tail = [] ∨ tail = ['\\']) :
    ps.flatMap LiteralPart.text ++ tail ≠ qs.flatMap LiteralPart.text ++ '"' :: rest := by
  induction ps generalizing qs with
  | nil =>
    rcases cut with rfl | rfl <;> rcases qs with _ | ⟨_ | _, qs⟩ <;> intro eq
    · cases eq
    · cases eq
    · cases eq
    · cases (List.cons.inj eq).1
    · rename_i c plain
      exact plain.2 (List.cons.inj eq).1.symm
    · cases (List.cons.inj eq).2
  | cons part ps ih =>
    cases part with
    | char c plain =>
      rcases qs with _ | ⟨_ | _, qs⟩ <;> intro eq
      · exact plain.1 (List.cons.inj eq).1
      · exact ih _ (List.cons.inj eq).2
      · exact plain.2 (List.cons.inj eq).1
    | escape c =>
      rcases qs with _ | ⟨_ | _, qs⟩ <;> intro eq
      · cases (List.cons.inj eq).1
      · rename_i d plain
        exact plain.2 (List.cons.inj eq).1.symm
      · exact ih _ (List.cons.inj (List.cons.inj eq).2).2

/-! ### Parts of texts -/

/-- Parts as they come from a text: no quote stands for itself, and a string literal that is cut short
comes last. -/
def Lexed : List Part → Prop
  | [] => True
  | .char c :: rest => c ≠ '"' ∧ Lexed rest
  | .cut _ _ :: rest => rest = []
  | .literal _ :: rest => Lexed rest
  | .comment _ :: rest => Lexed rest

theorem lexed_partsOf (text : List Char) : Lexed (partsOf text) := by
  have all : (∀ text, Lexed (partsOf text)) ∧ (∀ read text, Lexed (afterQuote read text)) ∧
      (∀ text, Lexed (afterBlock text)) ∧ ∀ text, Lexed (afterLine text) := by
    apply partsOf.mutual_induct
    case case5 =>
      intro c rest noLine noBlock noQuote ih
      rw [partsOf.eq_5 c rest noLine noBlock noQuote]
      exact ⟨noQuote, ih⟩
    case case1 => trivial
    case case2 => exact fun rest ih => ih
    case case3 => exact fun rest ih => ih
    case case4 => exact fun rest ih => ih
    case case6 => exact fun read => rfl
    case case7 =>
      intro read rest ih
      rw [afterQuote_quote]
      exact ih
    case case8 => exact fun read _ => rfl
    case case9 =>
      intro read c rest _ ih
      rwa [afterQuote_escape]
    case case10 =>
      intro read c rest quote escape ih
      rwa [afterQuote_char read quote escape]
    case case11 => trivial
    case case12 => exact fun rest ih => ih
    case case13 =>
      intro c rest noEnd ih
      rwa [afterBlock.eq_3 c rest noEnd]
    case case14 => trivial
    case case15 => exact fun rest ih => ⟨by decide, ih⟩
    case case16 =>
      intro c rest noEnd ih
      rwa [afterLine.eq_3 c rest noEnd]
  exact all.1 text

theorem Lexed.withoutTrailing {parts : List Part} (h : Lexed parts) (value : Bool) :
    Lexed (withoutTrailing value parts) := by
  fun_induction Commented.withoutTrailing value parts with
  | case1 => trivial
  | case2 value rest drops ih => exact ih h.2
  | case3 value rest keeps ih => exact ⟨h.1, ih h.2⟩
  | case4 value part rest noComma ih =>
    cases part with
    | char c => exact ⟨h.1, ih h.2⟩
    | literal ps => exact ih h
    | comment ended => exact ih h
    | cut ps escape =>
      obtain rfl : rest = [] := h
      rfl

/-- The parts are tokens with blanks and comments between them. -/
inductive Carries : List Part → List Token → Prop where
  | nil : Carries [] []
  | blank {c : Char} {parts : List Part} {tokens : List Token} (blank : Cursor.isSpace c = true)
      (rest : Carries parts tokens) : Carries (.char c :: parts) tokens
  | comment (ended : Bool) {parts : List Part} {tokens : List Token}
      (rest : Carries parts tokens) : Carries (.comment ended :: parts) tokens
  | literal (ps : List LiteralPart) {parts : List Part} {tokens : List Token}
      (rest : Carries parts tokens) : Carries (.literal ps :: parts) (.literal ps :: tokens)
  | token (t : Token) (noLiteral : ∀ ps, t ≠ .literal ps) {parts : List Part} {tokens : List Token}
      (rest : Carries parts tokens) : Carries (t.text.map .char ++ parts) (t :: tokens)

variable {parts : List Part} {tokens : List Token} {gap : List Char}

theorem flatMap_chars (text : List Char) :
    (text.map Part.char).flatMap (Part.text gap) = text := by
  induction text with
  | nil => rfl
  | cons c text ih => simpa [Part.text] using ih

/-- With blanks or nothing for comments, the text has the tokens that its parts carry. -/
theorem Carries.spaced (h : Carries parts tokens) (blanks : ∀ c ∈ gap, Cursor.isSpace c = true) :
    Spaced tokens (parts.flatMap (Part.text gap)) := by
  induction h with
  | nil => exact .nil
  | blank blank rest ih => exact .space blank ih
  | comment ended rest ih => exact (Spaced.of_blanks blanks).append ih
  | literal ps rest ih => exact .token (.literal ps) ih
  | token t noLiteral rest ih =>
    rw [List.flatMap_append, flatMap_chars]
    exact .token t ih

/-- A text that begins with no blank begins with its first token. -/
theorem exists_token_of_spaced {c : Char} {text : List Char} (solid : Cursor.isSpace c = false)
    (h : Spaced tokens (c :: text)) :
    ∃ t ts more rest, tokens = t :: ts ∧ t.text = c :: more ∧ text = more ++ rest ∧
      Spaced ts rest := by
  have stays : (c :: text).dropWhile Cursor.isSpace = c :: text := by simp [solid]
  rcases h.dropWhile with ⟨-, empty⟩ | ⟨t, ts, rest, rfl, eq, spaced⟩
  · rw [stays] at empty
    cases empty
  · rw [stays] at eq
    obtain ⟨d, more, text⟩ := List.exists_cons_of_ne_nil t.text_ne_nil
    rw [text] at eq
    obtain ⟨rfl, rfl⟩ := List.cons.inj eq
    exact ⟨t, ts, more, rest, rfl, text, rfl, spaced⟩

theorem spaced_of_space {c : Char} {text : List Char} (blank : Cursor.isSpace c = true)
    (h : Spaced tokens (c :: text)) : Spaced tokens text := by
  generalize eq : c :: text = whole at h
  cases h with
  | nil => cases eq
  | space other rest => exact (List.cons.inj eq).2 ▸ rest
  | token t rest =>
    obtain ⟨d, more, text⟩ := List.exists_cons_of_ne_nil t.text_ne_nil
    rw [text, List.cons_append] at eq
    have solid : Cursor.isSpace d = false := t.isSpace_head (by rw [text, List.head?_cons])
    rw [← (List.cons.inj eq).1, blank] at solid
    cases solid

/-! ### Words and comments -/

/-- A word that goes on past comments. -/
theorem wordPastComments_of_head {c : Char} (parts : List Part) (word : isWord c = true)
    (head : (parts.flatMap (Part.text [])).head? = some c) :
    wordPastComments true parts = true := by
  induction parts with
  | nil => cases head
  | cons part parts ih =>
    cases part with
    | char d =>
      obtain rfl : d = c := Option.some.inj head
      exact word
    | comment ended => exact ih head
    | literal ps | cut ps escape =>
      obtain rfl : '"' = c := Option.some.inj head
      exact absurd word (by decide)

/-- A word in a text comes from characters next to each other, if no comment divides it. -/
theorem exists_of_word {word rest : List Char} (all : ∀ c ∈ word, isWord c = true)
    (whole : gap = [' '] ∨
      gap = [] ∧ wordPastComments false parts = false ∧ fuses parts = false)
    (eq : parts.flatMap (Part.text gap) = word ++ rest) :
    ∃ more, parts = word.map .char ++ more ∧ rest = more.flatMap (Part.text gap) := by
  induction word generalizing parts with
  | nil => exact ⟨parts, rfl, eq.symm⟩
  | cons c word ih =>
    obtain ⟨first, others⟩ := List.forall_mem_cons.mp all
    cases parts with
    | nil => cases eq
    | cons part parts =>
      cases part with
      | char d =>
        obtain ⟨rfl, next⟩ := List.cons.inj eq
        have whole' : gap = [' '] ∨
            gap = [] ∧ wordPastComments false parts = false ∧ fuses parts = false := by
          refine whole.imp_right fun ⟨empty, _, apart⟩ => ⟨empty, ?_⟩
          simpa [fuses, first] using apart
        obtain ⟨more, rfl, behind⟩ := ih others whole' next
        exact ⟨more, rfl, behind⟩
      | literal ps | cut ps escape =>
        obtain rfl : '"' = c := (List.cons.inj eq).1
        exact absurd first (by decide)
      | comment ended =>
        rcases whole with rfl | ⟨rfl, apart, -⟩
        · obtain rfl : ' ' = c := (List.cons.inj eq).1
          exact absurd first (by decide)
        · have past := wordPastComments_of_head parts first (by
            rw [show parts.flatMap (Part.text []) = c :: word ++ rest from eq]
            rfl)
          rw [wordPastComments, past] at apart
          cases apart

/-- A token that is no string literal comes from characters next to each other, if no comment divides
it. -/
theorem exists_of_token {t : Token} {c : Char} {more rest : List Char} (text : t.text = c :: more)
    (noLiteral : ∀ ps, t ≠ .literal ps)
    (whole : gap = [' '] ∨ gap = [] ∧ fuses (.char c :: parts) = false)
    (eq : parts.flatMap (Part.text gap) = more ++ rest) :
    ∃ behind, parts = more.map .char ++ behind ∧ rest = behind.flatMap (Part.text gap) := by
  rcases mark_or_word text noLiteral with ⟨-, rfl⟩ | ⟨-, -, all⟩
  · exact ⟨parts, rfl, eq.symm⟩
  · obtain ⟨first, others⟩ := List.forall_mem_cons.mp all
    refine exists_of_word others (whole.imp_right fun ⟨empty, apart⟩ => ⟨empty, ?_⟩) eq
    simpa [fuses, first] using apart

theorem Lexed.of_append (text : List Char) (h : Lexed (text.map .char ++ parts)) : Lexed parts := by
  induction text with
  | nil => exact h
  | cons c text ih => exact ih h.2

theorem fuses_of_append (text : List Char) (apart : fuses (text.map .char ++ parts) = false) :
    fuses parts = false := by
  induction text with
  | nil => exact apart
  | cons c text ih => exact ih (Bool.or_eq_false_iff.mp apart).2

/-- A text has the tokens that its parts carry, if its comments are blanks or divide no word. -/
theorem Carries.of_spaced : (parts : List Part) → {tokens : List Token} → Lexed parts →
    (gap = [' '] ∨ gap = [] ∧ fuses parts = false) →
    Spaced tokens (parts.flatMap (Part.text gap)) → Carries parts tokens
  | [], tokens, _, _, h => by
    obtain rfl : tokens = [] := List.eq_nil_of_length_eq_zero (Nat.le_zero.mp h.length_le)
    exact .nil
  | .comment ended :: parts, tokens, lexed, whole, h => by
    refine .comment ended (Carries.of_spaced parts lexed whole ?_)
    rcases whole with rfl | ⟨rfl, -⟩
    · exact spaced_of_space (by decide) h
    · exact h
  | .literal ps :: parts, tokens, lexed, whole, h => by
    obtain ⟨t, ts, more, rest, rfl, text, eq, spaced⟩ := exists_token_of_spaced (by decide) h
    obtain ⟨qs, rfl⟩ := Token.exists_parts (by rw [text, List.head?_cons])
    obtain rfl := (List.cons.inj text).2
    obtain ⟨rfl, rfl⟩ := literalParts_inj ps qs (by simpa using eq)
    exact .literal ps (Carries.of_spaced parts lexed whole spaced)
  | .cut ps escape :: parts, tokens, lexed, whole, h => by
    obtain rfl : parts = [] := lexed
    obtain ⟨t, ts, more, rest, rfl, text, eq, -⟩ := exists_token_of_spaced (by decide) h
    obtain ⟨qs, rfl⟩ := Token.exists_parts (by rw [text, List.head?_cons])
    obtain rfl := (List.cons.inj text).2
    have tail : (if escape then ['\\'] else []) = [] ∨ (if escape then ['\\'] else []) = ['\\'] := by
      cases escape <;> simp
    refine absurd ?_ (cutParts_ne ps qs rest tail)
    simpa using eq
  | .char c :: parts, tokens, lexed, whole, h => by
    by_cases blank : Cursor.isSpace c = true
    · refine .blank blank (Carries.of_spaced parts lexed.2 ?_ (spaced_of_space blank h))
      exact whole.imp_right fun ⟨empty, apart⟩ => ⟨empty, (Bool.or_eq_false_iff.mp apart).2⟩
    · obtain ⟨t, ts, more, rest, rfl, text, eq, spaced⟩ :=
        exists_token_of_spaced (by simpa using blank) h
      have noLiteral (ps : List LiteralPart) : t ≠ .literal ps := by
        rintro rfl
        exact lexed.1 (List.cons.inj text).1.symm
      obtain ⟨behind, split, rfl⟩ := exists_of_token text noLiteral whole eq
      have shorter : behind.length ≤ parts.length := by simp [split]
      have tail : Carries behind ts := by
        refine Carries.of_spaced behind (Lexed.of_append more (split ▸ lexed.2)) ?_ spaced
        refine whole.imp_right fun ⟨empty, apart⟩ => ⟨empty, fuses_of_append (c :: more) ?_⟩
        rwa [split] at apart
      have head := Carries.token t noLiteral tail
      rw [split]
      rwa [text] at head
termination_by parts => parts.length
decreasing_by all_goals simp_wf <;> omega

/-! ### Tokens in order -/

/-- Where a word goes on past comments, a value begins. -/
theorem Carries.begins_of_word {behind : Bool} (h : Carries parts tokens)
    (word : wordPastComments behind parts = true) : ∃ t ∈ tokens.head?, t.beginsValue = true := by
  induction h generalizing behind with
  | nil => cases word
  | blank blank rest ih =>
    rename_i c parts tokens
    have notWord : isWord c = false := by simp [isWord, isBlank_of_isSpace blank]
    simp [wordPastComments, notWord] at word
  | comment ended rest ih => exact ih word
  | literal ps rest ih => cases word
  | token t noLiteral rest ih =>
    obtain ⟨c, more, text⟩ := List.exists_cons_of_ne_nil t.text_ne_nil
    rw [text] at word
    have isWord : isWord c = true := (Bool.and_eq_true_iff.mp word).2
    refine ⟨t, rfl, ?_⟩
    rcases mark_or_word text noLiteral with ⟨notWord, -⟩ | ⟨begins, -, -⟩
    · rw [isWord] at notWord
      cases notWord
    · exact begins

/-- Before a closing bracket comes the token of that bracket. -/
theorem Carries.closing_of_closes (h : Carries parts tokens) (closing : closes parts = true) :
    ∃ bracket, tokens.head? = some (.closing bracket) := by
  induction h with
  | nil => cases closing
  | blank blank rest ih =>
    rw [closes, if_pos (isBlank_of_isSpace blank)] at closing
    exact ih closing
  | comment ended rest ih => exact ih closing
  | literal ps rest ih => cases closing
  | token t noLiteral rest ih =>
    obtain ⟨c, more, text⟩ := List.exists_cons_of_ne_nil t.text_ne_nil
    rw [text, List.map_cons, List.cons_append, closes, if_neg (by simp [isBlank_of_text text])]
      at closing
    obtain ⟨bracket, rfl⟩ := eq_closing text (by simpa using closing)
    exact ⟨bracket, rfl⟩

theorem fuses_append {text : List Char}
    (last : ∀ c ∈ text.getLast?, isWord c = true → wordPastComments false parts = false) :
    fuses (text.map .char ++ parts) = fuses parts := by
  induction text with
  | nil => rfl
  | cons c text ih =>
    cases text with
    | nil =>
      cases word : isWord c with
      | false => simp [fuses, word]
      | true => simp [fuses, word, last c rfl word]
    | cons d text =>
      have next : wordPastComments false (.char d :: (text.map .char ++ parts)) = false := rfl
      rw [List.map_cons, List.cons_append, fuses, ih (by simpa using last)]
      simp [next]

theorem endsInComma_append {text : List Char} (noComma : ',' ∉ text) :
    endsInComma (text.map .char ++ parts) = endsInComma parts := by
  induction text with
  | nil => rfl
  | cons c text ih =>
    obtain ⟨first, others⟩ := not_or.mp (List.mem_cons.not.mp noComma)
    rw [List.map_cons, List.cons_append, endsInComma.eq_3 _ _ (by simpa using Ne.symm first),
      ih others]

/-- Between tokens in order no comment divides a word, and no comma comes before a closing
bracket. -/
theorem Carries.apart (h : Carries parts tokens) (chain : tokens.IsChain Token.Adjoin) :
    fuses parts = false ∧ endsInComma parts = false := by
  induction h with
  | nil => exact ⟨rfl, rfl⟩
  | blank blank rest ih =>
    rename_i c parts tokens
    have noWord : isWord c = false := by simp [isWord, isBlank_of_isSpace blank]
    have noComma : ',' ∉ [c] := by
      rintro there
      rw [← List.mem_singleton.mp there] at blank
      exact absurd blank (by decide)
    obtain ⟨apart, commas⟩ := ih chain
    have text : endsInComma (.char c :: parts) = endsInComma parts := endsInComma_append noComma
    exact ⟨by simp [fuses, noWord, apart], text.trans commas⟩
  | comment ended rest ih => exact ih chain
  | literal ps rest ih => exact ih chain.tail
  | token t noLiteral rest ih =>
    rename_i parts tokens
    obtain ⟨apart, commas⟩ := ih chain.tail
    have next : ∀ u ∈ tokens.head?, t.Adjoin u := (List.isChain_cons.mp chain).1
    constructor
    · rw [fuses_append, apart]
      intro c last word
      -- A token with a word's last character ends a value, and none begins right behind it.
      rw [Bool.eq_false_iff]
      intro past
      obtain ⟨u, there, begins⟩ := rest.begins_of_word past
      have ends : t.endsValue = true := by
        obtain ⟨d, more, text⟩ := List.exists_cons_of_ne_nil t.text_ne_nil
        rcases mark_or_word text noLiteral with ⟨noWord, rfl⟩ | ⟨-, ends, -⟩
        · rw [text] at last
          obtain rfl : d = c := Option.some.inj last
          rw [word] at noWord
          cases noWord
        · exact ends
      have adjoin := next u there
      rw [Token.Adjoin, if_pos ends, begins] at adjoin
      cases adjoin
    · by_cases comma : t = .comma
      · subst comma
        have noClosing : closes parts = false := by
          rw [Bool.eq_false_iff]
          intro closing
          obtain ⟨bracket, there⟩ := rest.closing_of_closes closing
          have adjoin := next _ there
          simp [Token.Adjoin, Token.endsValue, Token.beginsValue] at adjoin
        simp [Token.text, endsInComma, noClosing, commas]
      · rw [endsInComma_append, commas]
        exact fun there => comma (eq_comma there noLiteral)

end RemoteAttach.Json.Commented
