import Mathlib.Data.List.Chain
import RemoteAttach.Json.Scalar
import RemoteAttach.Proofs.Text.Numeral

/-! The tokens of JSON texts, and texts that are tokens with blanks between them. Two numbers next
to each other would run together; everything else stays apart without blanks. -/

namespace RemoteAttach.Json

open Reader (isDigit)

/-- The decimal digits one by one. -/
theorem mem_of_isDigit {c : Char} (digit : isDigit c = true) :
    c ∈ ['0', '1', '2', '3', '4', '5', '6', '7', '8', '9'] := by
  obtain ⟨low, high⟩ : 0x30 ≤ c.toNat ∧ c.toNat ≤ 0x39 := by
    simpa [isDigit, Char.le_def, UInt32.le_iff_toNat_le] using digit
  rw [← Char.ofNat_toNat c]
  interval_cases c.toNat <;> decide

/-- What holds of each decimal digit holds of a digit. -/
@[elab_as_elim] theorem of_isDigit {P : Char → Prop} [DecidablePred P] {c : Char}
    (digit : isDigit c = true)
    (all : ['0', '1', '2', '3', '4', '5', '6', '7', '8', '9'].all (fun d => P d) = true) : P c :=
  of_decide_eq_true (List.all_eq_true.mp all c (mem_of_isDigit digit))

namespace Reader

theorem bind_apply {α β : Type} (r : Reader α) (next : α → Reader β) (cur : Cursor) :
    (r >>= next) cur = r cur >>= fun p => next p.1 p.2 := rfl

theorem peek_bind {α : Type} (next : Option Char → Reader α) (cur : Cursor) :
    (peek >>= next) cur = next cur.rest.head? cur := rfl

theorem skipSpaces_bind {α : Type} (next : Option Char → Reader α) (cur : Cursor) :
    (skipSpaces >>= next) cur = next cur.skipSpaces.rest.head? cur.skipSpaces := rfl

/-- A character, or none, that does not continue a number. -/
def Ends (c? : Option Char) : Prop :=
  ∀ c ∈ c?, isDigit c = false ∧ c ≠ '.' ∧ c ≠ 'e' ∧ c ≠ 'E'

theorem ne_of_ends {c? : Option Char} (ends : Ends c?) :
    c? ≠ some '.' ∧ c? ≠ some 'e' ∧ c? ≠ some 'E' := by
  refine ⟨?_, ?_, ?_⟩ <;> (rintro rfl; have := ends _ rfl; simp at this)

/-- The digits ahead of what is no digit. -/
theorem takeWhile_isDigit {ds more : List Char} (all : ∀ c ∈ ds, isDigit c = true)
    (stop : ∀ c ∈ more.head?, isDigit c = false) : (ds ++ more).takeWhile isDigit = ds := by
  have none_ : more.takeWhile isDigit = [] := by
    cases more with
    | nil => rfl
    | cons c more => simp [stop c rfl]
  rw [List.takeWhile_append_of_pos all, none_, List.append_nil]

end Reader

namespace Cursor

theorem skipSpaces_rest (cur : Cursor) :
    cur.skipSpaces.rest = cur.rest.dropWhile isSpace := by
  have past (position : Position) (text : List Char) :
      (pastSpaces position text).1 = text.dropWhile isSpace := by
    induction text generalizing position with
    | nil => rfl
    | cons c text ih =>
      rw [pastSpaces, List.dropWhile_cons]
      split
      · exact ih _
      · rfl
  exact past cur.position cur.rest

theorem advance_rest {cur : Cursor} {c : Char} {rest : List Char} (h : cur.rest = c :: rest) :
    cur.advance.rest = rest ∧ cur.advance.bound = cur.bound := by
  simp [Cursor.advance, h]

end Cursor

namespace Bracket

/-- The character that opens a pair. -/
def opening : Bracket → Char
  | object => '\x7b'
  | array => '['

/-- The character that closes a pair. -/
def closing : Bracket → Char
  | object => '\x7d'
  | array => ']'

end Bracket

/-- A word that stands for a value. -/
inductive Keyword where
  | null
  | truth (value : Bool)
  deriving DecidableEq, Repr

/-- The characters of a keyword. -/
def Keyword.text : Keyword → List Char
  | null => ['n', 'u', 'l', 'l']
  | truth true => ['t', 'r', 'u', 'e']
  | truth false => ['f', 'a', 'l', 's', 'e']

/-- One digit or more. -/
structure Digits where
  chars : List Char
  some_ : chars ≠ []
  all : ∀ c ∈ chars, isDigit c = true

theorem Digits.isEmpty_chars (ds : Digits) : ds.chars.isEmpty = false := by
  simpa using ds.some_

/-- The exponent part of a number. -/
structure Exponent where
  mark : Char
  mark_eq : mark = 'e' ∨ mark = 'E'
  sign : List Char
  sign_eq : sign = [] ∨ sign = ['+'] ∨ sign = ['-']
  digits : Digits

/-- The characters of an exponent part. -/
def Exponent.text (e : Exponent) : List Char :=
  e.mark :: (e.sign ++ e.digits.chars)

/-- A number: a sign, digits without a leading zero, and perhaps a fraction and an exponent part. -/
structure Numeral where
  negative : Bool
  whole : Digits
  canonical : whole.chars.head? = some '0' → whole.chars = ['0']
  fraction : Option Digits
  exponent : Option Exponent

namespace Numeral

/-- The characters of the fraction and the exponent part. -/
def tail (n : Numeral) : List Char :=
  (n.fraction.elim [] fun ds => '.' :: ds.chars) ++ n.exponent.elim [] Exponent.text

/-- The characters of a number. -/
def text (n : Numeral) : List Char :=
  (if n.negative then ['-'] else []) ++ (n.whole.chars ++ n.tail)

end Numeral

/-- What holds of the decimal digits and of the other characters of numbers holds of each character
of a number. -/
theorem Numeral.forall_mem_text {P : Char → Prop} (n : Numeral)
    (digit : ∀ c, isDigit c = true → P c) (sign : P '-' ∧ P '+') (point : P '.')
    (mark : P 'e' ∧ P 'E') :
    ∀ c ∈ n.text, P c := by
  have digits (ds : Digits) : ∀ c ∈ ds.chars, P c := fun c there => digit c (ds.all c there)
  have minus : ∀ c ∈ if n.negative then ['-'] else [], P c := by
    split
    · exact List.forall_mem_singleton.mpr sign.1
    · nofun
  have fraction : ∀ c ∈ n.fraction.elim [] fun ds => '.' :: ds.chars, P c := by
    cases n.fraction with
    | none => simp
    | some ds => exact List.forall_mem_cons.mpr ⟨point, digits ds⟩
  have exponent : ∀ c ∈ n.exponent.elim [] Exponent.text, P c := by
    cases n.exponent with
    | none => simp
    | some e =>
      have first : P e.mark := by
        rcases e.mark_eq with h | h <;> rw [h]
        · exact mark.1
        · exact mark.2
      have signs : ∀ c ∈ e.sign, P c := by
        rcases e.sign_eq with h | h | h <;> rw [h]
        · nofun
        · exact List.forall_mem_singleton.mpr sign.2
        · exact List.forall_mem_singleton.mpr sign.1
      exact List.forall_mem_cons.mpr ⟨first, List.forall_mem_append.mpr ⟨signs, digits e.digits⟩⟩
  exact List.forall_mem_append.mpr ⟨minus, List.forall_mem_append.mpr
    ⟨digits n.whole, List.forall_mem_append.mpr ⟨fraction, exponent⟩⟩⟩

/-- What a string literal is made of: characters that stand for themselves, and backslashes with the
character after them. -/
inductive LiteralPart where
  | char (c : Char) (plain : c ≠ '"' ∧ c ≠ '\\')
  | escape (c : Char)

/-- The characters of a part of a string literal. -/
def LiteralPart.text : LiteralPart → List Char
  | char c _ => [c]
  | escape c => ['\\', c]

/-- The digits of a number that is read stand for themselves in a string literal. -/
theorem exists_parts_of_digitsAfter {base value n : Nat} {digits : List Char}
    (read : Text.digitsAfter base value digits = some n) :
    ∃ parts : List LiteralPart, parts.flatMap LiteralPart.text = digits := by
  induction digits generalizing value with
  | nil => exact ⟨[], rfl⟩
  | cons c digits ih =>
    obtain ⟨digit, first, further⟩ := Option.bind_eq_some_iff.mp read
    have plain : c ≠ '"' ∧ c ≠ '\\' := by
      have range := Text.range_of_digit? first
      constructor <;> (rintro rfl; exact absurd range (by decide))
    obtain ⟨parts, eq⟩ := ih further
    exact ⟨.char c plain :: parts, by rw [List.flatMap_cons, eq]; rfl⟩

/-- A token of a JSON text. -/
inductive Token where
  | opening (bracket : Bracket)
  | closing (bracket : Bracket)
  | comma
  | colon
  | keyword (word : Keyword)
  | number (number : Numeral)
  | literal (parts : List LiteralPart)

namespace Token

/-- The characters of a token. -/
def text : Token → List Char
  | opening bracket => [bracket.opening]
  | closing bracket => [bracket.closing]
  | comma => [',']
  | colon => [':']
  | keyword word => word.text
  | number n => n.text
  | literal parts => '"' :: (parts.flatMap LiteralPart.text ++ ['"'])

theorem text_ne_nil (t : Token) : t.text ≠ [] := by
  cases t with
  | keyword word => rcases word with _ | _ | _ <;> simp [text, Keyword.text]
  | number n => simp [text, Numeral.text, n.whole.some_]
  | _ => simp [text]

/-- The first character of a number without sign. -/
theorem exists_digit_of_number {n : Numeral} {c : Char} (head : n.text.head? = some c) :
    n.negative = true ∧ c = '-' ∨ n.negative = false ∧ isDigit c = true := by
  obtain ⟨d, ds, eq⟩ := List.exists_cons_of_ne_nil n.whole.some_
  cases sign : n.negative with
  | true => exact .inl ⟨rfl, by simpa [Numeral.text, sign, eq_comm] using head⟩
  | false =>
    obtain rfl : d = c := by simpa [Numeral.text, sign, eq] using head
    exact .inr ⟨rfl, n.whole.all d (by simp [eq])⟩

/-- A token begins with no blank. -/
theorem isSpace_head {t : Token} {c : Char} (head : t.text.head? = some c) :
    Cursor.isSpace c = false := by
  cases t with
  | opening bracket | closing bracket =>
    cases bracket <;> (obtain rfl := Option.some.inj head; decide)
  | keyword word =>
    rcases word with _ | _ | _ <;> (obtain rfl := Option.some.inj head; decide)
  | number n =>
    rcases exists_digit_of_number head with ⟨-, rfl⟩ | ⟨-, digit⟩
    · decide
    · exact of_isDigit digit (by decide)
  | comma | colon | literal parts => obtain rfl := Option.some.inj head; decide

/-- A token that begins with a punctuation mark is that mark. -/
theorem text_of_mark {t : Token} {c : Char} (mark : c ∈ ['[', ']', '\x7b', '\x7d', ',', ':'])
    (head : t.text.head? = some c) : t.text = [c] := by
  have noDigit : isDigit c = false := by
    simp only [List.mem_cons, List.not_mem_nil, or_false] at mark
    rcases mark with rfl | rfl | rfl | rfl | rfl | rfl <;> decide
  cases t with
  | opening bracket | closing bracket | comma | colon => simpa [text] using head
  | keyword word =>
    rcases word with _ | _ | _ <;> (obtain rfl := Option.some.inj head; simp at mark)
  | number n =>
    rcases exists_digit_of_number head with ⟨-, rfl⟩ | ⟨-, digit⟩
    · simp at mark
    · simp [noDigit] at digit
  | literal parts => obtain rfl := Option.some.inj head; simp at mark

/-- A token that begins like a keyword is that keyword. -/
theorem text_of_keyword {t : Token} (word : Keyword) (head : t.text.head? = word.text.head?) :
    t.text = word.text := by
  cases t with
  | opening bracket | closing bracket =>
    cases bracket <;> rcases word with _ | _ | _ <;> exact absurd head (by decide)
  | comma | colon => rcases word with _ | _ | _ <;> exact absurd head (by decide)
  | keyword other =>
    rcases other with _ | _ | _ <;> rcases word with _ | _ | _ <;>
      first | rfl | exact absurd head (by decide)
  | number n =>
    obtain ⟨c, more, eq⟩ := List.exists_cons_of_ne_nil (text_ne_nil (.number n))
    rw [eq, List.head?_cons] at head
    rcases exists_digit_of_number (n := n) (c := c) (by rw [← text, eq, List.head?_cons]) with
      ⟨-, rfl⟩ | ⟨-, digit⟩
    · rcases word with _ | _ | _ <;> exact absurd head (by decide)
    · rcases word with _ | _ | _ <;>
        (obtain rfl := Option.some.inj head; exact absurd digit (by decide))
  | literal parts => rcases word with _ | _ | _ <;> simp [text, Keyword.text] at head

/-- A token that begins with a quote is a string literal. -/
theorem exists_parts {t : Token} (head : t.text.head? = some '"') : ∃ parts, t = literal parts := by
  cases t with
  | opening bracket | closing bracket => cases bracket <;> exact absurd head (by decide)
  | comma | colon => exact absurd head (by decide)
  | keyword word => rcases word with _ | _ | _ <;> exact absurd head (by decide)
  | number n =>
    rcases exists_digit_of_number head with ⟨-, impossible⟩ | ⟨-, impossible⟩
    · exact absurd impossible (by decide)
    · exact absurd impossible (by decide)
  | literal parts => exact ⟨parts, rfl⟩

/-- A token that begins with a sign or a digit is a number. -/
theorem exists_number {t : Token} {c : Char} (head : t.text.head? = some c)
    (start : c = '-' ∨ isDigit c = true) : ∃ n, t = number n ∧ n.negative = (c == '-') := by
  have noDigit {d : Char} (other : d ≠ '-' ∧ isDigit d = false) : c ≠ d := by
    rintro rfl
    simp [other.1, other.2] at start
  cases t with
  | opening bracket | closing bracket =>
    cases bracket <;> exact absurd (Option.some.inj head).symm (noDigit (by decide))
  | comma | colon | literal parts =>
    exact absurd (Option.some.inj head).symm (noDigit (by decide))
  | keyword word =>
    rcases word with _ | _ | _ <;>
      exact absurd (Option.some.inj head).symm (noDigit (by decide))
  | number n =>
    refine ⟨n, rfl, ?_⟩
    rcases exists_digit_of_number head with ⟨sign, rfl⟩ | ⟨sign, digit⟩
    · rw [sign]; rfl
    · rw [sign]
      symm
      rw [beq_eq_false_iff_ne]
      rintro rfl
      exact absurd digit (by decide)

/-- A token that is a number. -/
def isNumber : Token → Bool
  | number _ => true
  | _ => false

/-- Two tokens that may stand next to each other. -/
def Apart (first second : Token) : Prop :=
  first.isNumber = true → second.isNumber = false

end Token

/-- A text of tokens with blanks before, between and after them. -/
inductive Spaced : List Token → List Char → Prop where
  | nil : Spaced [] []
  | space {c : Char} {tokens : List Token} {text : List Char} (blank : Cursor.isSpace c = true)
      (rest : Spaced tokens text) : Spaced tokens (c :: text)
  | token (t : Token) {tokens : List Token} {text : List Char} (rest : Spaced tokens text) :
      Spaced (t :: tokens) (t.text ++ text)

theorem Spaced.length_le {tokens : List Token} {text : List Char} (h : Spaced tokens text) :
    tokens.length ≤ text.length := by
  induction h with
  | nil => simp
  | space blank rest ih => simp; omega
  | token t rest ih =>
    have some_ := List.length_pos_iff.mpr t.text_ne_nil
    simp
    omega

/-- Without its leading blanks, a text of tokens begins with its first token. -/
theorem Spaced.dropWhile {tokens : List Token} {text : List Char} (h : Spaced tokens text) :
    tokens = [] ∧ text.dropWhile Cursor.isSpace = [] ∨
      ∃ t ts rest, tokens = t :: ts ∧ text.dropWhile Cursor.isSpace = t.text ++ rest ∧
        Spaced ts rest := by
  induction h with
  | nil => exact .inl ⟨rfl, rfl⟩
  | space blank rest ih => simpa [blank] using ih
  | token t rest ih =>
    refine .inr ⟨t, _, _, rfl, ?_, rest⟩
    obtain ⟨c, more, eq⟩ := List.exists_cons_of_ne_nil t.text_ne_nil
    have solid : Cursor.isSpace c = false := t.isSpace_head (by rw [eq, List.head?_cons])
    rw [eq, List.cons_append, List.dropWhile_cons_of_neg (by simp [solid])]

end RemoteAttach.Json
