import RemoteAttach.Json.Skip
import RemoteAttach.Proofs.Json.Alike
import RemoteAttach.Proofs.Json.Runs.Scalar

/-! Keywords and string literals are read alike whatever stands behind them. An escape by code reads
four characters without a look at the quote that ends its literal, and fails if it goes past that. -/

namespace RemoteAttach.Json.Reader

variable {α : Type} {P : Cursor → Cursor → Prop} {Q : α → Cursor → Cursor → Prop} {n : Nat}

/-- Keywords are read alike. -/
theorem Alike.word {t : Token} (text : List Char) :
    Alike (Within t text n) (word text) (word text) fun _ => Left n := by
  induction text with
  | nil => exact Alike.pure fun _ _ => Within.left
  | cons c text ih =>
    refine Alike.peek ?_
    simp only [↓reduceIte]
    exact Alike.advance.bind fun _ => ih

/-- Moving past a keyword that both cursors face. -/
theorem Alike.keyword (k : Keyword) {f g : Reader α} (next : Alike (Left n) f g Q) :
    Alike (fun a b => Facing n a b k.text.head?)
      (Reader.advance >>= fun _ => Reader.word k.text.tail >>= fun _ => f)
      (Reader.advance >>= fun _ => Reader.word k.text.tail >>= fun _ => g) Q := by
  intro a b facing
  obtain ⟨c, rest, eq⟩ : ∃ c rest, k.text = c :: rest :=
    List.exists_cons_of_ne_nil (Token.text_ne_nil (.keyword k))
  rw [eq] at facing ⊢
  obtain _ | ⟨t, head, within⟩ := facing
  rw [Token.text_of_keyword k (by rw [head, eq]; rfl), eq] at within
  exact Alike.bind Alike.advance (fun _ => (Alike.word rest).bind fun _ => next) a b within

/-! ### String literals -/

/-- The characters of a string literal up to and with its closing quote. -/
def literalText (parts : List LiteralPart) : List Char :=
  parts.flatMap LiteralPart.text ++ ['"']

/-- Both cursors are inside the same string literal, with fewer than `k` parts of it ahead. -/
def InLiteral (k n : Nat) (a b : Cursor) : Prop :=
  ∃ (t : Token) (parts : List LiteralPart),
    parts.length < k ∧ Within t (literalText parts) n a b

theorem InLiteral.mono {k k' n : Nat} (le : k ≤ k') {a b : Cursor} (h : InLiteral k n a b) :
    InLiteral k' n a b := by
  obtain ⟨t, parts, few, within⟩ := h
  exact ⟨t, parts, by omega, within⟩

/-- The three ways on inside a string literal. -/
theorem Alike.in_literal {k : Nat} {r s : Reader α}
    (closing : ∀ t, Alike (Within t ['"'] n) r s Q)
    (char : ∀ t c, c ≠ '"' → c ≠ '\\' → ∀ parts, parts.length < k →
      Alike (Within t (c :: literalText parts) n) r s Q)
    (escape : ∀ t c parts, parts.length < k →
      Alike (Within t ('\\' :: c :: literalText parts) n) r s Q) :
    Alike (InLiteral (k + 1) n) r s Q := by
  rintro a b ⟨t, parts, few, within⟩
  rcases parts with _ | ⟨_ | _, parts⟩
  · exact closing t a b within
  · rename_i c plain
    exact char t c plain.1 plain.2 parts (by simpa using few) a b within
  · rename_i c
    exact escape t c parts (by simpa using few) a b within

/-- A code that the next four characters do not spell is a broken escape. -/
theorem hexCode_error (cur : Cursor)
    (broken : ∀ x y z w rest code, cur.rest = x :: y :: z :: w :: rest →
      Text.digitsAfter 16 0 [x, y, z, w] ≠ some code) :
    ∃ e, hexCode cur = .error e ∧ e.cause.coarse = .endInString := by
  have fails (x : Except Fault (Nat × Cursor)) (h : x = .error (.placed ⟨.endInString,
      cur.position.bytesOn 4 cur.rest⟩) ∨ x = .error (.placed ⟨.invalidEscape,
      cur.position.bytesOn 4 cur.rest⟩)) : ∃ e, x = .error e ∧ e.cause.coarse = .endInString := by
    rcases h with rfl | rfl
    · exact ⟨_, rfl, rfl⟩
    · exact ⟨_, rfl, rfl⟩
  refine fails _ ?_
  unfold hexCode
  dsimp only
  split
  · rename_i eq
    split
    · rename_i digits
      exact absurd digits (broken _ _ _ _ _ _ eq)
    · split <;> simp
  · split <;> simp

/-- The first character of a string literal is of a part that stands for itself, if it is a
hexadecimal digit. -/
theorem exists_parts_of_digit {parts : List LiteralPart} {x : Char} {behind rest : List Char}
    (digit : (Text.digit? 16 x).isSome) (eq : literalText parts ++ behind = x :: rest) :
    ∃ parts' : List LiteralPart, parts'.length ≤ parts.length ∧
      literalText parts = x :: literalText parts' ∧ rest = literalText parts' ++ behind := by
  rcases parts with _ | ⟨_ | c, parts⟩
  · obtain rfl : '"' = x := (List.cons.inj eq).1
    exact absurd digit (by decide)
  · rename_i c plain
    obtain ⟨rfl, rfl⟩ := List.cons.inj eq
    exact ⟨parts, by simp, rfl, rfl⟩
  · obtain rfl : '\\' = x := (List.cons.inj eq).1
    exact absurd digit (by decide)

/-- A code that is spelt right in front of what ends a literal is spelt inside the literal. -/
theorem exists_parts_of_code {parts : List LiteralPart} {behind rest : List Char} {x y z w : Char}
    {code : Nat} (eq : literalText parts ++ behind = x :: y :: z :: w :: rest)
    (digits : Text.digitsAfter 16 0 [x, y, z, w] = some code) :
    ∃ parts' : List LiteralPart, parts'.length ≤ parts.length ∧
      literalText parts = x :: y :: z :: w :: literalText parts' := by
  have digit (c : Char) (there : c ∈ [x, y, z, w]) : (Text.digit? 16 c).isSome :=
    Option.isSome_iff_exists.mpr (Text.exists_digit_of_digitsAfter digits c there)
  obtain ⟨parts1, le1, eq1, rest1⟩ := exists_parts_of_digit (digit x (by simp)) eq
  obtain ⟨parts2, le2, eq2, rest2⟩ := exists_parts_of_digit (digit y (by simp)) rest1.symm
  obtain ⟨parts3, le3, eq3, rest3⟩ := exists_parts_of_digit (digit z (by simp)) rest2.symm
  obtain ⟨parts4, le4, eq4, rest4⟩ := exists_parts_of_digit (digit w (by simp)) rest3.symm
  exact ⟨parts4, by omega, by rw [eq1, eq2, eq3, eq4]⟩

/-- The code of an escape is read alike: it lies inside the literal, or is broken. -/
theorem Alike.hexCode {k : Nat} :
    Alike (InLiteral k n) hexCode hexCode fun _ => InLiteral k n := by
  rintro a b ⟨t, parts, few, ⟨tokens, left, right, fewTokens, apart, h1, h2, ha, hb⟩, ba, bb⟩
  by_cases spelt : ∃ x y z w code parts', parts'.length ≤ parts.length ∧
      literalText parts = x :: y :: z :: w :: literalText parts' ∧
      Text.digitsAfter 16 0 [x, y, z, w] = some code
  · obtain ⟨x, y, z, w, code, parts', le, eq, digits⟩ := spelt
    rw [eq] at ha hb
    obtain ⟨a', runA, restA, boundA⟩ := Runs.hexCode digits _ a ha (by rwa [ha] at ba)
    obtain ⟨b', runB, restB, boundB⟩ := Runs.hexCode digits _ b hb (by rwa [hb] at bb)
    rw [runA, runB]
    exact .ok ⟨t, parts', by omega,
      ⟨tokens, left, right, fewTokens, apart, h1, h2, restA, restB⟩,
      by rwa [restA], by rwa [restB]⟩
  · obtain ⟨e, runA, causeA⟩ := hexCode_error a fun x y z w rest code eq digits => by
      obtain ⟨parts', le, eq'⟩ := exists_parts_of_code (ha.symm.trans eq) digits
      exact spelt ⟨x, y, z, w, code, parts', le, eq', digits⟩
    obtain ⟨f, runB, causeB⟩ := hexCode_error b fun x y z w rest code eq digits => by
      obtain ⟨parts', le, eq'⟩ := exists_parts_of_code (hb.symm.trans eq) digits
      exact spelt ⟨x, y, z, w, code, parts', le, eq', digits⟩
    rw [runA, runB]
    exact .error (causeA.trans causeB.symm)

theorem Alike.surrogateMark {t : Token} {c : Char} {text : List Char} (mark : Char) :
    Alike (Within t (c :: text) n) (surrogateMark mark) (surrogateMark mark)
      fun _ a b => c = mark ∧ Within t text n a b := by
  refine Alike.peek ?_
  dsimp only
  split
  · rename_i same
    exact Alike.advance.weaken fun _ _ _ within => ⟨same, within⟩
  · exact Alike.failAhead _

/-- The two marks of a second escape are read alike, and only the backslash of an escape is one. -/
theorem Alike.surrogateMarks {k : Nat} {r : Reader α}
    (next : Alike (InLiteral k n) r r Q) :
    Alike (InLiteral (k + 1) n)
      (Reader.surrogateMark '\\' >>= fun _ => Reader.surrogateMark 'u' >>= fun _ => r)
      (Reader.surrogateMark '\\' >>= fun _ => Reader.surrogateMark 'u' >>= fun _ => r) Q := by
  refine Alike.in_literal (fun t => ?_) (fun t c _ noEscape parts few => ?_)
    fun t c parts few => ?_
  · refine (Alike.surrogateMark '\\').bind fun _ => ?_
    rintro a b ⟨impossible, -⟩
    exact absurd impossible (by decide)
  · refine (Alike.surrogateMark '\\').bind fun _ => ?_
    rintro a b ⟨impossible, -⟩
    exact absurd impossible noEscape
  · refine (Alike.surrogateMark '\\').bind fun _ => ?_
    refine Alike.strengthen ?_ fun a b h => h.2
    refine (Alike.surrogateMark 'u').bind fun _ => next.strengthen ?_
    rintro a b ⟨-, within⟩
    exact ⟨t, parts, few, within⟩

theorem Alike.unicodeEscape {k : Nat} :
    Alike (InLiteral k n) unicodeEscape unicodeEscape fun _ => InLiteral k n := by
  refine Alike.hexCode.bind fun code => ?_
  split
  · exact Alike.failHere _
  · split
    · refine Alike.strengthen ?_ fun a b h => h.mono (Nat.le_succ k)
      refine Alike.surrogateMarks (Alike.hexCode.bind fun second => ?_)
      split
      · exact Alike.pure fun _ _ => id
      · exact Alike.failHere _
    · exact Alike.pure fun _ _ => id

/-- An escape is read alike, after its backslash. -/
theorem Alike.escape {k : Nat} {t : Token} {c : Char} {parts : List LiteralPart}
    (few : parts.length < k) :
    Alike (Within t (c :: literalText parts) n) escape escape fun _ => InLiteral k n := by
  have inside : ∀ a b, Within t (literalText parts) n a b → InLiteral k n a b :=
    fun a b within => ⟨t, parts, few, within⟩
  refine Alike.peek ?_
  split
  · rename_i impossible
    exact absurd impossible (by simp)
  · exact Alike.advance.bind fun _ => Alike.unicodeEscape.strengthen inside
  · split
    · rename_i same _ _ _
      obtain rfl := Option.some.inj same
      exact Alike.advance.bind fun _ => Alike.pure inside
    · exact Alike.failAhead _

/-- The rest of a string literal is read alike, with fuel for each of its parts. -/
theorem Alike.literalAfter {k fuel fuel' : Nat} (enough : k ≤ fuel) (enough' : k ≤ fuel')
    (read : List Char) :
    Alike (InLiteral k n) (literalAfter fuel read) (literalAfter fuel' read) fun _ => Left n := by
  induction k generalizing fuel fuel' read with
  | zero => rintro a b ⟨t, parts, impossible, -⟩; omega
  | succ k ih =>
    obtain ⟨fuel, rfl⟩ : ∃ m, fuel = m + 1 := ⟨fuel - 1, by omega⟩
    obtain ⟨fuel', rfl⟩ : ∃ m, fuel' = m + 1 := ⟨fuel' - 1, by omega⟩
    refine Alike.in_literal (fun t => ?_) (fun t c noQuote noEscape parts few => ?_)
      fun t c parts few => ?_
    · exact Alike.peek (Alike.advance.bind fun _ => Alike.pure fun _ _ => Within.left)
    · refine Alike.peek ?_
      split
      · exact Alike.failHere _
      · rename_i same
        exact absurd (Option.some.inj same) noQuote
      · rename_i same
        exact absurd (Option.some.inj same) noEscape
      · rename_i same
        obtain rfl := Option.some.inj same
        split
        · exact Alike.failAhead _
        · refine Alike.advance.bind fun _ => ?_
          refine (ih (by omega) (by omega) _).strengthen fun a b within => ?_
          exact ⟨t, parts, few, within⟩
    · refine Alike.peek (Alike.advance.bind fun _ => (Alike.escape few).bind fun d => ?_)
      exact ih (by omega) (by omega) _

/-- Both cursors are past the opening quote of the same string literal. -/
def Opened (n : Nat) (a b : Cursor) : Prop :=
  ∃ (t : Token) (parts : List LiteralPart), Within t (literalText parts) n a b

theorem Alike.quote :
    Alike (fun a b => Facing n a b (some '"')) Reader.advance Reader.advance fun _ => Opened n := by
  rintro a b (_ | ⟨t, head, within⟩)
  obtain ⟨parts, rfl⟩ := Token.exists_parts head
  exact Alike.advance.weaken (fun _ _ _ within => ⟨_, parts, within⟩) a b within

theorem length_le_literalText (parts : List LiteralPart) :
    parts.length < (literalText parts).length := by
  induction parts with
  | nil => simp [literalText]
  | cons part parts ih =>
    have some_ : 0 < part.text.length := by cases part <;> simp [LiteralPart.text]
    simp only [literalText, List.flatMap_cons, List.append_assoc, List.length_append,
      List.length_cons] at ih ⊢
    omega

/-- A string literal is read alike. -/
theorem Alike.literal : Alike (Opened n) literal literal fun _ => Left n := by
  rintro a b ⟨t, parts, within⟩
  refine Alike.bound_within (fun x y hx hy => ?_) a b within
  have few := length_le_literalText parts
  refine Alike.bind ?_ fun chars => Alike.pure fun _ _ => id
  refine (Alike.literalAfter (k := parts.length + 1) (by omega) (by omega) []).strengthen ?_
  exact fun a b within => ⟨t, parts, by omega, within⟩

/-- The rest of a string literal is passed over alike, with fuel for each of its parts. -/
theorem Alike.skipLiteral {k fuel fuel' : Nat} (enough : k ≤ fuel) (enough' : k ≤ fuel') :
    Alike (InLiteral k n) (skipLiteral fuel) (skipLiteral fuel') fun _ => Left n := by
  induction k generalizing fuel fuel' with
  | zero => rintro a b ⟨t, parts, impossible, -⟩; omega
  | succ k ih =>
    obtain ⟨fuel, rfl⟩ : ∃ m, fuel = m + 1 := ⟨fuel - 1, by omega⟩
    obtain ⟨fuel', rfl⟩ : ∃ m, fuel' = m + 1 := ⟨fuel' - 1, by omega⟩
    refine Alike.in_literal (fun t => ?_) (fun t c noQuote noEscape parts few => ?_)
      fun t c parts few => ?_
    · exact Alike.peek Alike.advance |>.weaken fun _ _ _ => Within.left
    · refine Alike.peek ?_
      split
      · exact Alike.failHere _
      · rename_i same
        exact absurd (Option.some.inj same) noQuote
      · rename_i same
        exact absurd (Option.some.inj same) noEscape
      · rename_i same
        obtain rfl := Option.some.inj same
        split
        · exact Alike.failHere _
        · refine Alike.advance.bind fun _ => ?_
          refine (ih (by omega) (by omega)).strengthen fun a b within => ?_
          exact ⟨t, parts, few, within⟩
    · refine Alike.peek (Alike.advance.bind fun _ => Alike.peek ?_)
      have inside : ∀ a b, Within t (literalText parts) n a b → InLiteral k n a b :=
        fun a b within => ⟨t, parts, few, within⟩
      split
      · exact Alike.failHere _
      · refine Alike.advance.bind fun _ => Alike.strengthen ?_ inside
        exact Alike.hexCode.bind fun _ => ih (by omega) (by omega)
      · split
        · exact Alike.advance.bind fun _ => (ih (by omega) (by omega)).strengthen inside
        · exact (Alike.failAhead _).bind fun _ => ih (by omega) (by omega)

/-- A string literal is passed over alike. -/
theorem Alike.skipString : Alike (Opened n) skipString skipString fun _ => Left n := by
  rintro a b ⟨t, parts, within⟩
  refine Alike.bound_within (fun x y hx hy => ?_) a b within
  have few := length_le_literalText parts
  refine (Alike.skipLiteral (k := parts.length + 1) (by omega) (by omega)).strengthen ?_
  exact fun a b within => ⟨t, parts, by omega, within⟩

end RemoteAttach.Json.Reader
