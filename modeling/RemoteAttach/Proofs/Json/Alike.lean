import RemoteAttach.Json.Document
import RemoteAttach.Proofs.Json.Token

/-! Runs of readers on two texts that hold the same tokens with different blanks between them. The
runs are alike: they give the same value, or stop for the same cause. A relation between the two
cursors says how many tokens are ahead and how far the token under way has been read. -/

namespace RemoteAttach.Json

/-- The cause that stands for all causes that only blanks tell apart: an escape by code that the end
of its literal cuts short may be told as broken or as the end of the text, whichever the characters
behind the literal suggest. -/
def Cause.coarse : Cause → Cause
  | invalidEscape => endInString
  | cause => cause

/-- Why a reader stops, without the place. -/
def Fault.cause : Fault → Cause
  | placed error => error.cause
  | unplaced cause _ => cause

namespace Reader

variable {α β : Type}

/-- Two results with the same value and cursors in relation, or errors of one coarse cause. -/
inductive Agree (Q : α → Cursor → Cursor → Prop) :
    Except Fault (α × Cursor) → Except Fault (α × Cursor) → Prop where
  | ok {x : α} {a b : Cursor} (related : Q x a b) : Agree Q (.ok (x, a)) (.ok (x, b))
  | error {e f : Fault} (cause : e.cause.coarse = f.cause.coarse) : Agree Q (.error e) (.error f)

/-- Runs of `r` and `s` from cursors in the relation `P` agree, with cursors in the relation `Q` for
the value read. -/
def Alike (P : Cursor → Cursor → Prop) (r s : Reader α) (Q : α → Cursor → Cursor → Prop) : Prop :=
  ∀ a b, P a b → Agree Q (r a) (s b)

section Rules

variable {P P' : Cursor → Cursor → Prop} {Q : α → Cursor → Cursor → Prop}
  {R : β → Cursor → Cursor → Prop} {r s : Reader α} {f g : α → Reader β}

theorem Alike.bind (h : Alike P r s Q) (next : ∀ x, Alike (Q x) (f x) (g x) R) :
    Alike P (r >>= f) (s >>= g) R := by
  intro a b related
  have first := h a b related
  rw [bind_apply, bind_apply]
  generalize r a = x, s b = y at first ⊢
  cases first with
  | ok related => exact next _ _ _ related
  | error cause => exact .error cause

theorem Alike.pure {x : α} (h : ∀ a b, P a b → Q x a b) :
    Alike P (Pure.pure x) (Pure.pure x) Q := fun a b related =>
  Agree.ok (h a b related)

theorem Alike.weaken {Q' : α → Cursor → Cursor → Prop} (h : Alike P r s Q)
    (implies : ∀ x a b, Q x a b → Q' x a b) : Alike P r s Q' := by
  intro a b related
  have first := h a b related
  generalize r a = x, s b = y at first ⊢
  cases first with
  | ok related => exact .ok (implies _ _ _ related)
  | error cause => exact .error cause

theorem Alike.strengthen (h : Alike P r s Q) (implies : ∀ a b, P' a b → P a b) :
    Alike P' r s Q := fun a b related => h a b (implies a b related)

theorem Alike.failHere (cause : Cause) :
    Alike P (Reader.failHere cause) (Reader.failHere cause) Q := fun _ _ _ => .error rfl

theorem Alike.failAhead (cause : Cause) :
    Alike P (Reader.failAhead cause) (Reader.failAhead cause) Q := fun _ _ _ => .error rfl

theorem Alike.failUnplaced (cause : Cause) :
    Alike P (Reader.failUnplaced cause) (Reader.failUnplaced cause) Q := fun _ _ _ => .error rfl

end Rules

/-! ### Cursors at the same place -/

/-- Both cursors have `text` ahead, and then the same tokens, which are fewer than `n`. The token
`under` comes before them. -/
structure Within (under : Token) (text : List Char) (n : Nat) (a b : Cursor) : Prop where
  intro ::
  exists_rest : ∃ (tokens : List Token) (left right : List Char),
    tokens.length < n ∧ (under :: tokens).IsChain Token.Apart ∧
    Spaced tokens left ∧ Spaced tokens right ∧
    a.rest = text ++ left ∧ b.rest = text ++ right
  bounded : a.rest.length ≤ a.bound ∧ b.rest.length ≤ b.bound

/-- Both cursors have the same tokens ahead, which are fewer than `n`. -/
structure Left (n : Nat) (a b : Cursor) : Prop where
  exists_tokens : ∃ tokens : List Token,
    tokens.length < n ∧ tokens.IsChain Token.Apart ∧ Spaced tokens a.rest ∧ Spaced tokens b.rest
  bounded : a.rest.length ≤ a.bound ∧ b.rest.length ≤ b.bound

/-- Both cursors have the same token ahead, without blanks before it, and then fewer than `n`
tokens, or neither has any. The token begins with the given character. -/
inductive Facing (n : Nat) (a b : Cursor) : Option Char → Prop where
  | none (empty : a.rest = [] ∧ b.rest = []) : Facing n a b none
  | some {c : Char} (t : Token) (head : t.text.head? = some c) (within : Within t t.text n a b) :
    Facing n a b (some c)

theorem Left.mono {n m : Nat} (le : n ≤ m) {a b : Cursor} (h : Left n a b) : Left m a b := by
  obtain ⟨⟨tokens, few, rest⟩, bounded⟩ := h
  exact ⟨⟨tokens, by omega, rest⟩, bounded⟩

/-- At the end of a token only whole tokens are ahead. -/
theorem Within.left {t : Token} {n : Nat} {a b : Cursor} (h : Within t [] n a b) : Left n a b := by
  obtain ⟨⟨tokens, left, right, few, apart, h1, h2, ha, hb⟩, bounded⟩ := h
  exact ⟨⟨tokens, few, apart.tail, by rwa [ha], by rwa [hb]⟩, bounded⟩

theorem Facing.mono {n m : Nat} (le : n ≤ m) {a b : Cursor} {c? : Option Char}
    (h : Facing n a b c?) : Facing m a b c? := by
  cases h with
  | none empty => exact .none empty
  | some t head within =>
    obtain ⟨⟨tokens, left, right, few, rest⟩, bounded⟩ := within
    exact .some t head ⟨⟨tokens, left, right, by omega, rest⟩, bounded⟩

theorem Facing.left {n : Nat} {a b : Cursor} {c? : Option Char} (h : Facing n a b c?) :
    Left (n + 1) a b := by
  cases h with
  | none empty =>
    obtain ⟨ha, hb⟩ := empty
    exact ⟨⟨[], by simp, by simp, ha ▸ .nil, hb ▸ .nil⟩, by simp [ha], by simp [hb]⟩
  | some t head within =>
    obtain ⟨⟨tokens, left, right, few, apart, h1, h2, ha, hb⟩, bounded⟩ := within
    exact ⟨⟨t :: tokens, by simpa using few, apart, ha ▸ .token t h1, hb ▸ .token t h2⟩, bounded⟩

/-! ### Single steps -/

variable {P : Cursor → Cursor → Prop} {Q : α → Cursor → Cursor → Prop} {n : Nat}

/-- Past the blanks, both cursors face the same token. -/
theorem Alike.skipSpaces :
    Alike (Left (n + 1)) skipSpaces skipSpaces fun c? a b => Facing n a b c? := by
  rintro a b ⟨⟨tokens, few, apart, ha, hb⟩, ba, bb⟩
  have shorter (cur : Cursor) : cur.skipSpaces.rest.length ≤ cur.rest.length := by
    rw [Cursor.skipSpaces_rest]
    exact (List.dropWhile_sublist _).length_le
  rcases ha.dropWhile with ⟨rfl, emptyA⟩ | ⟨t, ts, left, rfl, eqA, restA⟩
  · obtain ⟨-, emptyB⟩ : [] = [] ∧ b.rest.dropWhile Cursor.isSpace = [] := by
      rcases hb.dropWhile with h | ⟨t, ts, -, impossible, -⟩
      · exact h
      · exact absurd impossible (by simp)
    rw [← Cursor.skipSpaces_rest] at emptyA emptyB
    unfold Reader.skipSpaces
    rw [emptyA, emptyB]
    exact .ok (.none ⟨emptyA, emptyB⟩)
  · obtain ⟨right, eqB, restB⟩ :
        ∃ right, b.rest.dropWhile Cursor.isSpace = t.text ++ right ∧ Spaced ts right := by
      rcases hb.dropWhile with ⟨impossible, -⟩ | ⟨t', ts', right, eq, h⟩
      · exact absurd impossible (by simp)
      · obtain ⟨rfl, rfl⟩ := List.cons.inj eq
        exact ⟨right, h⟩
    rw [← Cursor.skipSpaces_rest] at eqA eqB
    obtain ⟨c, more, eq⟩ := List.exists_cons_of_ne_nil t.text_ne_nil
    have headA : a.skipSpaces.rest.head? = some c := by rw [eqA, eq]; rfl
    have headB : b.skipSpaces.rest.head? = some c := by rw [eqB, eq]; rfl
    unfold Reader.skipSpaces
    rw [headA, headB]
    refine .ok (.some t (by rw [eq, List.head?_cons]) ⟨⟨ts, left, right, ?_, apart, restA, restB,
      eqA, eqB⟩, ?_, ?_⟩)
    · simpa using few
    · exact (shorter a).trans ba
    · exact (shorter b).trans bb

/-- The rule for a reader that begins by passing over blanks. -/
theorem Alike.past_spaces {f g : Option Char → Reader α}
    (h : ∀ c?, Alike (fun a b => Facing n a b c?) (f c?) (g c?) Q) :
    Alike (Left (n + 1)) (Reader.skipSpaces >>= f) (Reader.skipSpaces >>= g) Q :=
  Alike.bind Alike.skipSpaces h

theorem Alike.advance {t : Token} {c : Char} {text : List Char} :
    Alike (Within t (c :: text) n) advance advance fun _ => Within t text n := by
  rintro a b ⟨⟨tokens, left, right, few, apart, h1, h2, ha, hb⟩, ba, bb⟩
  obtain ⟨ra, ba'⟩ := Cursor.advance_rest ha
  obtain ⟨rb, bb'⟩ := Cursor.advance_rest hb
  refine .ok ⟨⟨tokens, left, right, few, apart, h1, h2, ra, rb⟩, ?_, ?_⟩
  · rw [ra, ba']
    rw [ha] at ba
    exact Nat.le_of_succ_le ba
  · rw [rb, bb']
    rw [hb] at bb
    exact Nat.le_of_succ_le bb

/-- Inside a token both cursors have the same character ahead. -/
theorem Alike.peek {t : Token} {c : Char} {text : List Char} {f g : Option Char → Reader α}
    (h : Alike (Within t (c :: text) n) (f (some c)) (g (some c)) Q) :
    Alike (Within t (c :: text) n) (Reader.peek >>= f) (Reader.peek >>= g) Q := by
  refine Alike.bind (Q := fun c? a b => c? = some c ∧ Within t (c :: text) n a b) ?_ ?_
  · intro a b within
    obtain ⟨tokens, left, right, few, apart, h1, h2, ha, hb⟩ := within.exists_rest
    unfold Reader.peek
    rw [show a.rest.head? = some c by rw [ha]; rfl, show b.rest.head? = some c by rw [hb]; rfl]
    exact .ok ⟨rfl, within⟩
  · rintro c? a b ⟨rfl, within⟩
    exact h a b within

/-- Inside a token, the bound of either cursor covers what is left of the token. -/
theorem Alike.bound_within {t : Token} {text : List Char} {f g : Nat → Reader α}
    (h : ∀ x y, text.length ≤ x → text.length ≤ y → Alike (Within t text n) (f x) (g y) Q) :
    Alike (Within t text n) (bound >>= f) (bound >>= g) Q := by
  intro a b within
  obtain ⟨tokens, left, right, -, -, -, -, ha, hb⟩ := within.exists_rest
  obtain ⟨ba, bb⟩ := within.bounded
  rw [ha, List.length_append] at ba
  rw [hb, List.length_append] at bb
  exact h a.bound b.bound (by omega) (by omega) a b within

/-- Moving past a punctuation mark. -/
theorem Alike.mark {c : Char} (mark : c ∈ ['[', ']', '\x7b', '\x7d', ',', ':']) :
    Alike (fun a b => Facing n a b (some c)) Reader.advance Reader.advance fun _ => Left n := by
  rintro a b (_ | ⟨t, head, within⟩)
  rw [Token.text_of_mark mark head] at within
  exact Alike.advance.weaken (fun _ _ _ => Within.left) a b within

/-- Some token is always counted. -/
theorem Alike.of_pos {r s : Reader α} (h : ∀ m, n = m + 1 → Alike (Left (m + 1)) r s Q) :
    Alike (Left n) r s Q := by
  intro a b left
  obtain ⟨m, rfl⟩ : ∃ m, n = m + 1 := by
    obtain ⟨tokens, few, -⟩ := left.exists_tokens
    exact ⟨n - 1, by omega⟩
  exact h m rfl a b left

/-! ### Brackets -/

theorem Alike.colon : Alike (Left (n + 1)) colon colon fun _ => Left n := by
  refine Alike.past_spaces fun c? => ?_
  split
  · exact Alike.mark (by decide)
  · exact Alike.failAhead _
  · exact Alike.failHere _

/-- An array that goes on has its next item ahead, and a comma fewer if that is not its first. -/
theorem Alike.hasItem (first : Bool) :
    Alike (Left (n + 1)) (hasItem first) (hasItem first) fun more =>
      Left (if more && !first then n else n + 1) := by
  refine Alike.past_spaces fun c? => ?_
  split
  · exact Alike.failHere _
  · exact Alike.pure fun _ _ => Facing.left
  · cases first with
    | true => exact Alike.pure fun _ _ => Facing.left
    | false =>
      simp only [Bool.false_eq_true, ↓reduceIte]
      split
      · rename_i comma
        subst comma
        refine (Alike.mark (by decide)).bind fun _ => Alike.of_pos ?_
        rintro m rfl
        refine Alike.past_spaces fun c? => ?_
        split
        · exact Alike.failAhead _
        · exact Alike.pure fun _ _ => Facing.left
        · exact Alike.failHere _
      · exact Alike.failAhead _

/-- An object that goes on has its next name ahead. -/
theorem Alike.hasMember (first : Bool) :
    Alike (Left (n + 1)) (hasMember first) (hasMember first) fun more a b =>
      if more then Facing n a b (some '"') else Left (n + 1) a b := by
  refine Alike.past_spaces fun c? => ?_
  split
  · exact Alike.failHere _
  · exact Alike.pure fun _ _ => Facing.left
  · split
    · split
      · rename_i quote
        subst quote
        exact Alike.pure fun _ _ => id
      · exact Alike.failAhead _
    · split
      · rename_i comma
        subst comma
        refine (Alike.mark (by decide)).bind fun _ => Alike.of_pos ?_
        rintro m rfl
        refine Alike.past_spaces fun c? => ?_
        split
        · exact Alike.pure fun _ _ facing => facing.mono (by omega)
        · exact Alike.failAhead _
        · exact Alike.failAhead _
        · exact Alike.failHere _
      · exact Alike.failAhead _

/-- Both cursors move past the closing bracket. -/
theorem Alike.close (bracket : Bracket) :
    Alike (Left (n + 1)) bracket.close bracket.close fun _ => Left n := by
  cases bracket with
  | object =>
    refine Alike.past_spaces fun c? => ?_
    split
    · exact Alike.mark (by decide)
    · exact Alike.failAhead _
    · exact Alike.failAhead _
    · exact Alike.failHere _
  | array =>
    refine Alike.past_spaces fun c? => ?_
    split
    · exact Alike.mark (by decide)
    · refine (Alike.mark (by decide)).bind fun _ => Alike.of_pos ?_
      rintro m rfl
      refine Alike.past_spaces fun c? => ?_
      split
      · exact Alike.failAhead _
      · exact Alike.failAhead _
    · exact Alike.failAhead _
    · exact Alike.failHere _

/-- What stands in a bracket pair is read alike if its body is. -/
theorem Alike.enclose {r s : Reader α} (bracket : Bracket)
    (body : Alike P r s fun _ => Left (n + 1)) :
    Alike P (bracket.enclose r) (bracket.enclose s) fun _ => Left n := by
  intro a b related
  have inside := body a b related
  unfold Bracket.enclose
  generalize r a = x, s b = y at inside ⊢
  cases inside with
  | ok related =>
    rename_i v a b
    have closed := Alike.close bracket a b related
    dsimp only
    generalize bracket.close a = x, bracket.close b = y at closed ⊢
    cases closed with
    | ok related => exact .ok related
    | error cause => exact .error cause
  | error cause =>
    rename_i e f
    cases e <;> cases f <;> exact .error cause

/-- Moving past an opening bracket if a further level may be opened. -/
theorem Alike.enter {c : Char} (mark : c ∈ ['[', '\x7b']) (room : Nat) :
    Alike (fun a b => Facing n a b (some c)) (enter room) (enter room) fun _ => Left n := by
  cases room with
  | zero => exact Alike.failAhead _
  | succ room =>
    have mark' : c ∈ ['[', ']', '\x7b', '\x7d', ',', ':'] := by
      rcases List.mem_pair.mp mark with rfl | rfl <;> decide
    exact (Alike.mark mark').bind fun _ => Alike.pure fun _ _ => id

end Reader

end RemoteAttach.Json
