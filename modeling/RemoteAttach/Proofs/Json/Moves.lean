import RemoteAttach.Proofs.Json.Ensures

/-! What a reader has passed when it succeeds: whole tokens with blanks between them, in an order in
which values, commas, colons and brackets may stand. The rules here carry a condition on the place of
a cursor, on what is behind it and ahead of it, through a run. -/

namespace RemoteAttach.Json

/-! ### The order of tokens -/

namespace Token

/-- A token that the last of a value may be. -/
def endsValue : Token → Bool
  | closing _ | keyword _ | number _ | literal _ => true
  | opening _ | comma | colon => false

/-- A token that the first of a value may be. -/
def beginsValue : Token → Bool
  | opening _ | keyword _ | number _ | literal _ => true
  | closing _ | comma | colon => false

/-- Two tokens that may come one after the other. A value does not follow a value, and a comma or a
colon is followed by one; a bracket may be closed as soon as it has been opened. -/
def Adjoin (first second : Token) : Prop :=
  if first.endsValue then second.beginsValue = false
  else second.beginsValue = true ∨
    (∃ bracket, first = opening bracket) ∧ ∃ bracket, second = closing bracket

end Token

/-- Tokens in order, after which a value may come. -/
def Awaiting (tokens : List Token) : Prop :=
  tokens.IsChain Token.Adjoin ∧ ∀ t ∈ tokens.getLast?, t.endsValue = false

/-- Tokens in order that end with a value. -/
def Complete (tokens : List Token) : Prop :=
  tokens.IsChain Token.Adjoin ∧ ∃ t ∈ tokens.getLast?, t.endsValue = true

/-- Tokens in order that end with an opening bracket. -/
def JustOpened (tokens : List Token) : Prop :=
  tokens.IsChain Token.Adjoin ∧ ∃ bracket, tokens.getLast? = some (.opening bracket)

/-- Tokens in order, after which a bracket may be closed. -/
def Closable (tokens : List Token) : Prop :=
  Complete tokens ∨ JustOpened tokens

theorem Awaiting.nil : Awaiting [] := by
  simp [Awaiting]

theorem isChain_append_token {tokens : List Token} {t : Token}
    (chain : tokens.IsChain Token.Adjoin) (next : ∀ last ∈ tokens.getLast?, last.Adjoin t) :
    (tokens ++ [t]).IsChain Token.Adjoin :=
  List.isChain_append.mpr ⟨chain, .singleton t, fun last there other eq => by
    obtain rfl := Option.some.inj eq
    exact next last there⟩

theorem JustOpened.awaiting {tokens : List Token} (h : JustOpened tokens) : Awaiting tokens := by
  obtain ⟨chain, bracket, last⟩ := h
  refine ⟨chain, fun t there => ?_⟩
  rw [last] at there
  obtain rfl := Option.some.inj there
  rfl

/-- A value that is one token. -/
theorem Awaiting.append_value {tokens : List Token} (h : Awaiting tokens) {t : Token}
    (begins : t.beginsValue = true) (ends : t.endsValue = true) : Complete (tokens ++ [t]) := by
  refine ⟨isChain_append_token h.1 fun last there => ?_, t, by simp, ends⟩
  simp [Token.Adjoin, h.2 last there, begins]

theorem Awaiting.append_opening {tokens : List Token} (h : Awaiting tokens) (bracket : Bracket) :
    JustOpened (tokens ++ [.opening bracket]) := by
  refine ⟨isChain_append_token h.1 fun last there => ?_, bracket, by simp⟩
  simp [Token.Adjoin, h.2 last there, Token.beginsValue]

/-- A comma or a colon after a value. -/
theorem Complete.append_mark {tokens : List Token} (h : Complete tokens) {t : Token}
    (begins : t.beginsValue = false) (ends : t.endsValue = false) : Awaiting (tokens ++ [t]) := by
  obtain ⟨chain, last, there, value⟩ := h
  refine ⟨isChain_append_token chain fun other eq => ?_, by simpa using ends⟩
  obtain rfl := Option.mem_unique there eq
  simp [Token.Adjoin, value, begins]

theorem Closable.append_closing {tokens : List Token} (h : Closable tokens) (bracket : Bracket) :
    Complete (tokens ++ [.closing bracket]) := by
  rcases h with ⟨chain, last, there, value⟩ | ⟨chain, opened, last⟩
  · refine ⟨isChain_append_token chain fun other eq => ?_, .closing bracket, by simp, rfl⟩
    obtain rfl := Option.mem_unique there eq
    simp [Token.Adjoin, value, Token.beginsValue]
  · refine ⟨isChain_append_token chain fun other eq => ?_, .closing bracket, by simp, rfl⟩
    obtain rfl := Option.mem_unique last eq
    simp [Token.Adjoin, Token.endsValue]

theorem Spaced.append {tokens tokens' : List Token} {text text' : List Char}
    (h : Spaced tokens text) (h' : Spaced tokens' text') :
    Spaced (tokens ++ tokens') (text ++ text') := by
  induction h with
  | nil => exact h'
  | space blank rest ih => exact .space blank ih
  | token t rest ih =>
    rw [List.append_assoc]
    exact .token t ih

theorem Spaced.of_blanks {text : List Char} (blanks : ∀ c ∈ text, Cursor.isSpace c = true) :
    Spaced [] text := by
  induction text with
  | nil => exact .nil
  | cons c text ih =>
    have h := List.forall_mem_cons.mp blanks
    exact .space h.1 (ih h.2)

theorem Spaced.append_token {tokens : List Token} {text : List Char} (h : Spaced tokens text)
    (t : Token) : Spaced (tokens ++ [t]) (text ++ t.text) := by
  simpa using h.append (.token t .nil)

namespace Reader

variable {α β : Type}

/-! ### Conditions on a place -/

/-- What may hold of a place in a text: of the characters behind it and of those ahead of it. -/
abbrev Condition := List Char → List Char → Prop

/-- Whole tokens are behind. -/
def Tokens (Φ : List Token → Prop) : Condition := fun behind _ =>
  ∃ tokens, Spaced tokens behind ∧ Φ tokens

/-- Whole tokens and a part of one more are behind. -/
def Inside (Φ : List Token → Prop) (part : List Char) : Condition := fun behind _ =>
  ∃ tokens whole, behind = whole ++ part ∧ Spaced tokens whole ∧ Φ tokens

/-- The given character is next, or none. -/
def Ahead (P : Condition) (c? : Option Char) : Condition := fun behind ahead =>
  P behind ahead ∧ ahead.head? = c?

/-- Each run of `r` that succeeds moves from a place with `P` to a place further on with `Q` for
the value read. -/
def Moves (P : Condition) (r : Reader α) (Q : α → Condition) : Prop :=
  ∀ behind cur x cur', P behind cur.rest → cur.rest.length ≤ cur.bound → r cur = .ok (x, cur') →
    ∃ passed, cur.rest = passed ++ cur'.rest ∧ cur'.bound = cur.bound ∧
      Q x (behind ++ passed) cur'.rest

variable {P P' : Condition} {Q Q' : α → Condition} {R : β → Condition} {r : Reader α}
  {f : α → Reader β} {Φ Ψ : List Token → Prop} {part : List Char} {c : Char}

theorem Tokens.imp (implies : ∀ tokens, Φ tokens → Ψ tokens) {behind ahead : List Char}
    (h : Tokens Φ behind ahead) : Tokens Ψ behind ahead := by
  obtain ⟨tokens, spaced, holds⟩ := h
  exact ⟨tokens, spaced, implies tokens holds⟩

/-- At its end a token is one of those behind. -/
theorem Inside.tokens (t : Token) (implies : ∀ tokens, Φ tokens → Ψ (tokens ++ [t]))
    {behind ahead : List Char} (h : Inside Φ t.text behind ahead) : Tokens Ψ behind ahead := by
  obtain ⟨tokens, whole, rfl, spaced, holds⟩ := h
  exact ⟨_, spaced.append_token t, implies tokens holds⟩

/-! ### Rules -/

theorem Moves.bind (h : Moves P r Q) (next : ∀ x, Moves (Q x) (f x) R) : Moves P (r >>= f) R := by
  intro behind cur y cur' place bounded run
  obtain ⟨x, mid, first, second⟩ := exists_of_bind run
  obtain ⟨passed, eq, bound, place⟩ := h behind cur x mid place bounded first
  have bounded' : mid.rest.length ≤ mid.bound := by
    rw [eq, List.length_append] at bounded
    omega
  obtain ⟨further, eq', bound', place'⟩ := next x _ mid y cur' place bounded' second
  exact ⟨passed ++ further, by rw [eq, eq', List.append_assoc], bound'.trans bound,
    by rwa [← List.append_assoc]⟩

theorem Moves.pure {x : α} (h : ∀ behind ahead, P behind ahead → Q x behind ahead) :
    Moves P (Pure.pure x) Q := by
  intro behind cur y cur' place _ run
  obtain ⟨rfl, rfl⟩ := Prod.mk.inj (Except.ok.inj run)
  exact ⟨[], by simp, rfl, by simpa using h _ _ place⟩

theorem Moves.weaken (h : Moves P r Q)
    (implies : ∀ x behind ahead, Q x behind ahead → Q' x behind ahead) : Moves P r Q' := by
  intro behind cur x cur' place bounded run
  obtain ⟨passed, eq, bound, place⟩ := h behind cur x cur' place bounded run
  exact ⟨passed, eq, bound, implies _ _ _ place⟩

theorem Moves.strengthen (h : Moves P r Q)
    (implies : ∀ behind ahead, P' behind ahead → P behind ahead) : Moves P' r Q :=
  fun behind cur x cur' place => h behind cur x cur' (implies _ _ place)

/-- A reader may forget the character it has seen ahead. -/
theorem Moves.forget {c? : Option Char} (h : Moves P r Q) : Moves (Ahead P c?) r Q :=
  h.strengthen fun _ _ place => place.1

/-- A reader that never succeeds moves nowhere. -/
theorem Moves.of_fails (h : Ensures r fun _ => False) : Moves P r Q :=
  fun _ cur x cur' _ _ run => (h cur x cur' run).elim

theorem Moves.failHere (cause : Cause) : Moves P (Reader.failHere cause) Q :=
  Moves.of_fails (Ensures.failHere _ _)

theorem Moves.failAhead (cause : Cause) : Moves P (Reader.failAhead cause) Q :=
  Moves.of_fails (Ensures.failAhead _ _)

theorem Moves.failUnplaced (cause : Cause) : Moves P (Reader.failUnplaced cause) Q :=
  Moves.of_fails (Ensures.failUnplaced _ _)

theorem Moves.wrongType (expected : Expected) : Moves P (Reader.wrongType expected) Q :=
  Moves.of_fails (Ensures.wrongType _ _)

theorem Moves.peek {f : Option Char → Reader α} (h : ∀ c?, Moves (Ahead P c?) (f c?) Q) :
    Moves P (Reader.peek >>= f) Q := fun behind cur x cur' place bounded run =>
  h cur.rest.head? behind cur x cur' ⟨place, rfl⟩ bounded run

theorem Moves.bound {f : Nat → Reader α}
    (h : ∀ n, Moves (fun behind ahead => P behind ahead ∧ ahead.length ≤ n) (f n) Q) :
    Moves P (Reader.bound >>= f) Q := fun behind cur x cur' place bounded run =>
  h cur.bound behind cur x cur' ⟨place, bounded⟩ bounded run

/-- The rule for a loop whose fuel is taken from the bound. -/
theorem Moves.fuel {f : Nat → Reader α} (h : ∀ n, Moves P (f n) Q) :
    Moves P (Reader.bound >>= f) Q :=
  Moves.bound fun n => (h n).strengthen fun _ _ place => place.1

/-- The rule for a reader that begins by passing over blanks. -/
theorem Moves.past_spaces {f : Option Char → Reader α}
    (h : ∀ c?, Moves (Ahead (Tokens Φ) c?) (f c?) Q) :
    Moves (Tokens Φ) (Reader.skipSpaces >>= f) Q := by
  refine Moves.bind (Q := fun c? => Ahead (Tokens Φ) c?) ?_ h
  rintro behind cur c? cur' ⟨tokens, spaced, holds⟩ - run
  obtain ⟨rfl, rfl⟩ := Prod.mk.inj (Except.ok.inj run)
  refine ⟨cur.rest.takeWhile Cursor.isSpace, ?_, rfl, ⟨tokens, ?_, holds⟩, rfl⟩
  · rw [Cursor.skipSpaces_rest, List.takeWhile_append_dropWhile]
  · have blanks : Spaced [] (cur.rest.takeWhile Cursor.isSpace) :=
      Spaced.of_blanks fun c there => List.mem_takeWhile_imp there
    simpa using spaced.append blanks

theorem Moves.or (h : Moves P r Q) (h' : Moves P' r Q) :
    Moves (fun behind ahead => P behind ahead ∨ P' behind ahead) r Q := by
  rintro behind cur x cur' (place | place)
  · exact h behind cur x cur' place
  · exact h' behind cur x cur' place

/-- The rule for a reader that passes over blanks where none are. -/
theorem Moves.past_no_spaces {f : Option Char → Reader α} (solid : Cursor.isSpace c = false)
    (h : Moves (Ahead P (some c)) (f (some c)) Q) :
    Moves (Ahead P (some c)) (Reader.skipSpaces >>= f) Q := by
  rintro behind cur x cur' ⟨place, head⟩ bounded run
  obtain ⟨rest, eq⟩ := List.head?_eq_some_iff.mp head
  have stays : cur.skipSpaces = cur := by
    obtain ⟨text, position, bound⟩ := cur
    simp_all [Cursor.skipSpaces, Cursor.pastSpaces]
  refine h behind cur x cur' ⟨place, head⟩ bounded ?_
  rwa [skipSpaces_bind, stays, head] at run

/-- Moving past the character ahead. -/
theorem Moves.advance {Q : Condition}
    (h : ∀ behind ahead, P behind (c :: ahead) → Q (behind ++ [c]) ahead) :
    Moves (Ahead P (some c)) Reader.advance fun _ => Q := by
  rintro behind cur x cur' ⟨place, head⟩ - run
  obtain ⟨rest, eq⟩ := List.head?_eq_some_iff.mp head
  obtain ⟨-, rfl⟩ := Prod.mk.inj (Except.ok.inj run)
  obtain ⟨rest', bound⟩ := Cursor.advance_rest eq
  rw [eq] at place
  exact ⟨[c], by rw [rest', eq]; rfl, bound, by rw [rest']; exact h _ _ place⟩

/-- Moving past the first character of a token. -/
theorem Moves.first :
    Moves (Ahead (Tokens Φ) (some c)) Reader.advance fun _ => Inside Φ [c] :=
  Moves.advance fun behind _ ⟨tokens, spaced, holds⟩ => ⟨tokens, behind, rfl, spaced, holds⟩

/-- Moving past a further character of a token. -/
theorem Moves.further :
    Moves (Ahead (Inside Φ part) (some c)) Reader.advance fun _ => Inside Φ (part ++ [c]) :=
  Moves.advance fun _ _ ⟨tokens, whole, eq, spaced, holds⟩ =>
    ⟨tokens, whole, by rw [eq, List.append_assoc], spaced, holds⟩

/-- Moving past a token of one character. -/
theorem Moves.mark (t : Token) (text : t.text = [c])
    (implies : ∀ tokens, Φ tokens → Ψ (tokens ++ [t])) :
    Moves (Ahead (Tokens Φ) (some c)) Reader.advance fun _ => Tokens Ψ :=
  Moves.first.weaken fun _ _ _ place => Inside.tokens t implies (text ▸ place)

/-! ### Words and brackets -/

/-- Moving past the rest of a word. -/
theorem Moves.word (text : List Char) :
    Moves (Inside Φ part) (Reader.word text) fun _ => Inside Φ (part ++ text) := by
  induction text generalizing part with
  | nil => exact Moves.pure fun _ _ => by simp
  | cons c text ih =>
    refine Moves.peek fun c? => ?_
    split
    · exact Moves.failHere _
    · split
      · rename_i same
        subst same
        refine Moves.further.bind fun _ => ?_
        simpa using @ih (part ++ [c])
      · exact Moves.failAhead _

/-- Moving past a keyword whose first character is ahead, and on from the end of its value. -/
theorem Moves.keyword (k : Keyword) {r : Reader α}
    (next : Moves (Tokens Complete) r Q) :
    Moves (Ahead (Tokens Awaiting) k.text.head?)
      (Reader.advance >>= fun _ => Reader.word k.text.tail >>= fun _ => r) Q := by
  obtain ⟨c, rest, eq⟩ : ∃ c rest, k.text = c :: rest :=
    List.exists_cons_of_ne_nil (Token.text_ne_nil (.keyword k))
  rw [eq]
  refine Moves.first.bind fun _ => (Moves.word rest).bind fun _ => next.strengthen ?_
  intro behind ahead place
  rw [List.singleton_append, ← eq] at place
  exact Inside.tokens (.keyword k) (fun _ h => h.append_value rfl rfl) place

theorem Moves.colon : Moves (Tokens Complete) colon fun _ => Tokens Awaiting := by
  refine Moves.past_spaces fun c? => ?_
  split
  · exact Moves.mark .colon rfl fun _ h => h.append_mark rfl rfl
  · exact Moves.failAhead _
  · exact Moves.failHere _

/-- Moving past the comma after a value. -/
theorem Moves.comma :
    Moves (Ahead (Tokens Complete) (some ',')) Reader.advance fun _ => Tokens Awaiting :=
  Moves.mark .comma rfl fun _ h => h.append_mark rfl rfl

/-- An item of an array is behind, or its bracket has just been opened and is closed at once. -/
def BetweenItems : Condition := fun behind ahead =>
  Tokens Complete behind ahead ∨ Ahead (Tokens JustOpened) (some ']') behind ahead

/-- At the bracket that closes an array. -/
def AtArrayEnd : Condition :=
  Ahead (Tokens Closable) (some ']')

theorem AtArrayEnd.betweenItems {behind ahead : List Char} (h : AtArrayEnd behind ahead) :
    BetweenItems behind ahead := by
  obtain ⟨⟨tokens, spaced, complete | opened⟩, head⟩ := h
  · exact .inl ⟨tokens, spaced, complete⟩
  · exact .inr ⟨⟨tokens, spaced, opened⟩, head⟩

/-- An array that goes on has an item ahead. -/
theorem Moves.hasItem (first : Bool) :
    Moves (if first then Tokens JustOpened else BetweenItems) (hasItem first) fun more =>
      if more then Tokens Awaiting else AtArrayEnd := by
  cases first with
  | true =>
    refine Moves.past_spaces fun c? => ?_
    split
    · exact Moves.failHere _
    · exact Moves.pure fun _ _ place => ⟨Tokens.imp (fun _ => .inr) place.1, place.2⟩
    · exact Moves.pure fun _ _ place => Tokens.imp (fun _ => JustOpened.awaiting) place.1
  | false =>
    refine Moves.or (Moves.past_spaces fun c? => ?_) (Moves.past_no_spaces (by decide) ?_)
    · split
      · exact Moves.failHere _
      · exact Moves.pure fun _ _ place => ⟨Tokens.imp (fun _ => .inl) place.1, place.2⟩
      · simp only [Bool.false_eq_true, ↓reduceIte]
        split
        · rename_i comma
          subst comma
          refine Moves.comma.bind fun _ => Moves.past_spaces fun c? => ?_
          split
          · exact Moves.failAhead _
          · exact Moves.pure fun _ _ place => place.1
          · exact Moves.failHere _
        · exact Moves.failAhead _
    · exact Moves.pure fun _ _ place => ⟨Tokens.imp (fun _ => .inr) place.1, place.2⟩

/-- An object that goes on has the quote of a name ahead. -/
theorem Moves.hasMember (first : Bool) :
    Moves (Tokens (if first then JustOpened else Complete)) (hasMember first) fun more =>
      if more then Ahead (Tokens Awaiting) (some '"') else Tokens Closable := by
  cases first with
  | true =>
    refine Moves.past_spaces (Φ := JustOpened) fun c? => ?_
    split
    · exact Moves.failHere _
    · exact Moves.pure fun _ _ place => Tokens.imp (fun _ => .inr) place.1
    · simp only [↓reduceIte]
      split
      · rename_i quote
        subst quote
        exact Moves.pure fun _ _ place =>
          ⟨Tokens.imp (fun _ => JustOpened.awaiting) place.1, place.2⟩
      · exact Moves.failAhead _
  | false =>
    refine Moves.past_spaces (Φ := Complete) fun c? => ?_
    split
    · exact Moves.failHere _
    · exact Moves.pure fun _ _ place => Tokens.imp (fun _ => .inl) place.1
    · simp only [Bool.false_eq_true, ↓reduceIte]
      split
      · rename_i comma
        subst comma
        refine Moves.comma.bind fun _ => Moves.past_spaces fun c? => ?_
        split
        · exact Moves.pure fun _ _ => id
        · exact Moves.failAhead _
        · exact Moves.failAhead _
        · exact Moves.failHere _
      · exact Moves.failAhead _

theorem Moves.close (bracket : Bracket) :
    Moves (Tokens Closable) bracket.close fun _ => Tokens Complete := by
  cases bracket with
  | object =>
    refine Moves.past_spaces fun c? => ?_
    split
    · exact Moves.mark (.closing .object) rfl fun _ h => h.append_closing _
    · exact Moves.failAhead _
    · exact Moves.failAhead _
    · exact Moves.failHere _
  | array =>
    refine Moves.past_spaces fun c? => ?_
    split
    · exact Moves.mark (.closing .array) rfl fun _ h => h.append_closing _
    · refine Moves.of_fails (Ensures.last fun _ => Ensures.last fun c? => ?_)
      split
      · exact Ensures.failAhead _ _
      · exact Ensures.failAhead _ _
    · exact Moves.failAhead _
    · exact Moves.failHere _

/-- What stands in a bracket pair makes a value with the pair. -/
theorem Moves.enclose (bracket : Bracket) (body : Moves P r fun _ => Tokens Closable) :
    Moves P (bracket.enclose r) fun _ => Tokens Complete := by
  have both : Moves P (r >>= fun x => bracket.close >>= fun _ => Pure.pure x)
      fun _ => Tokens Complete :=
    body.bind fun x => (Moves.close bracket).bind fun _ => Moves.pure fun _ _ => id
  intro behind cur x cur' place bounded run
  refine both behind cur x cur' place bounded ?_
  unfold Bracket.enclose at run
  rw [bind_apply]
  cases first : r cur with
  | error e =>
    rw [first] at run
    cases e <;> cases run
  | ok p =>
    rw [first] at run
    exact run

/-- Moving past an opening bracket if a further level may be opened. -/
theorem Moves.enter (bracket : Bracket) (room : Nat) :
    Moves (Ahead (Tokens Awaiting) (some bracket.opening)) (enter room)
      fun _ => Tokens JustOpened := by
  cases room with
  | zero => exact Moves.failAhead _
  | succ room =>
    refine Moves.bind (Moves.mark (.opening bracket) rfl fun _ h => h.append_opening _) fun _ => ?_
    exact Moves.pure fun _ _ => id

end Reader

end RemoteAttach.Json
