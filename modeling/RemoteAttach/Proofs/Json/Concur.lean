import RemoteAttach.Proofs.Json.Moves.Value

/-! Two readers of one text, such as one that asks for a value of a known type and one that takes any
value. They concur if they stop at the same place, with values in a relation, whenever both succeed.
Here are the rules for that, and the readers whose only difference is in their fuel and levels. -/

namespace RemoteAttach.Json

/-- A cursor has no more ahead than its bound allows. -/
def Cursor.Bounded (cur : Cursor) : Prop :=
  cur.rest.length ≤ cur.bound

theorem Cursor.skipSpaces_idem (cur : Cursor) : cur.skipSpaces.skipSpaces = cur.skipSpaces := by
  have past (position : Position) (text : List Char) :
      pastSpaces (pastSpaces position text).2 (pastSpaces position text).1 =
        pastSpaces position text := by
    induction text generalizing position with
    | nil => rfl
    | cons c text ih =>
      rw [pastSpaces]
      split
      · exact ih _
      · rename_i solid
        rw [pastSpaces, if_neg solid]
  unfold skipSpaces
  dsimp only
  rw [past]

theorem Cursor.Bounded.skipSpaces {cur : Cursor} (bounded : cur.Bounded) :
    cur.skipSpaces.Bounded := by
  refine le_trans ?_ bounded
  rw [Cursor.skipSpaces_rest]
  exact (List.dropWhile_sublist _).length_le

namespace Reader

variable {α β γ δ : Type}

/-- A reader after which a cursor is bounded still. -/
def Keeps (r : Reader α) : Prop :=
  ∀ cur x cur', cur.Bounded → r cur = .ok (x, cur') → cur'.Bounded

/-- Any place. -/
abbrev Anywhere : Cursor → Prop := fun _ => True

/-- The given character is next, or none. -/
def Next (c? : Option Char) (cur : Cursor) : Prop :=
  cur.rest.head? = c?

/-- No blank is next, but the given character or none. -/
def Solid (c? : Option Char) (cur : Cursor) : Prop :=
  cur.skipSpaces = cur ∧ Next c? cur

/-- Whenever `r` and `s` both succeed from a place with `P`, they stop at the same place, with values
in the relation `R`. -/
def Concur (P : Cursor → Prop) (r : Reader α) (s : Reader β) (R : α → β → Prop) : Prop :=
  ∀ cur x end_ y end', P cur → cur.Bounded → r cur = .ok (x, end_) → s cur = .ok (y, end') →
    end_ = end' ∧ end_.Bounded ∧ R x y

variable {P P' : Cursor → Prop} {R R' : α → β → Prop} {S : γ → δ → Prop} {r : Reader α}
  {s : Reader β} {f : α → Reader γ} {g : β → Reader δ} {c? : Option Char}

/-! ### Rules -/

theorem Concur.bind (h : Concur P r s R)
    (next : ∀ x y, R x y → Concur Anywhere (f x) (g y) S) : Concur P (r >>= f) (s >>= g) S := by
  intro cur x end_ y end' place bounded left right
  obtain ⟨a, mid, first, left⟩ := exists_of_bind left
  obtain ⟨b, mid', second, right⟩ := exists_of_bind right
  obtain ⟨rfl, bounded, related⟩ := h cur a mid b mid' place bounded first second
  exact next a b related mid x end_ y end' trivial bounded left right

theorem Concur.pure {x : α} {y : β} (h : R x y) : Concur P (Pure.pure x) (Pure.pure y) R := by
  intro cur a end_ b end' place bounded left right
  obtain ⟨rfl, rfl⟩ := Prod.mk.inj (Except.ok.inj left)
  obtain ⟨rfl, rfl⟩ := Prod.mk.inj (Except.ok.inj right)
  exact ⟨rfl, bounded, h⟩

theorem Concur.weaken (h : Concur P r s R) (implies : ∀ x y, R x y → R' x y) :
    Concur P r s R' := by
  intro cur x end_ y end' place bounded left right
  obtain ⟨same, bounded, related⟩ := h cur x end_ y end' place bounded left right
  exact ⟨same, bounded, implies x y related⟩

theorem Concur.strengthen (h : Concur P r s R) (implies : ∀ cur, P' cur → P cur) :
    Concur P' r s R :=
  fun cur x end_ y end' place => h cur x end_ y end' (implies cur place)

/-- What holds from any place holds from each. -/
theorem Concur.anywhere (h : Concur Anywhere r s R) : Concur P r s R :=
  h.strengthen fun _ _ => trivial

/-- What one of the readers ensures of its value may be used. -/
theorem Concur.weaken_of_ensures {Q : β → Prop} (h : Concur P r s R) (ensures : Ensures s Q)
    (implies : ∀ x y, R x y → Q y → R' x y) : Concur P r s R' := by
  intro cur x end_ y end' place bounded left right
  obtain ⟨same, bounded, related⟩ := h cur x end_ y end' place bounded left right
  exact ⟨same, bounded, implies x y related (ensures cur y end' right)⟩

theorem Concur.of_left_fails (h : Ensures r fun _ => False) : Concur P r s R :=
  fun cur x end_ _ _ _ _ left _ => (h cur x end_ left).elim

theorem Concur.of_right_fails (h : Ensures s fun _ => False) : Concur P r s R :=
  fun cur _ _ y end' _ _ _ right => (h cur y end' right).elim

/-- One side may make something of its value. -/
theorem Concur.bind_left {T : γ → β → Prop} (h : Concur P r s R)
    (next : ∀ x y, R x y → Concur Anywhere (f x) (Pure.pure y) T) : Concur P (r >>= f) s T := by
  have both : Concur P (r >>= f) (s >>= Pure.pure) T := h.bind next
  rwa [bind_pure] at both

theorem Concur.bind_right {T : α → δ → Prop} (h : Concur P r s R)
    (next : ∀ x y, R x y → Concur Anywhere (Pure.pure x) (g y) T) : Concur P r (s >>= g) T := by
  have both : Concur P (r >>= Pure.pure) (s >>= g) T := h.bind next
  rwa [bind_pure] at both

theorem Concur.refl (keeps : Keeps r) : Concur P r r Eq := by
  intro cur x end_ y end' _ bounded left right
  obtain ⟨rfl, rfl⟩ := Prod.mk.inj (Except.ok.inj (left.symm.trans right))
  exact ⟨rfl, keeps cur x end_ bounded left, rfl⟩

/-- Two readers may begin with the same one. -/
theorem Concur.same {f : α → Reader γ} {g : α → Reader δ} (keeps : Keeps r)
    (next : ∀ x, Concur Anywhere (f x) (g x) S) : Concur P (r >>= f) (r >>= g) S :=
  (Concur.refl keeps).bind fun x _ eq => eq ▸ next x

/-- What the first reader ensures of the place that it reaches is known there. -/
theorem Concur.same_place {f : α → Reader γ} {g : α → Reader δ} {Q : α → Cursor → Prop}
    (keeps : Keeps r) (reaches : ∀ cur x cur', r cur = .ok (x, cur') → Q x cur')
    (next : ∀ x, Concur (Q x) (f x) (g x) S) : Concur P (r >>= f) (r >>= g) S := by
  intro cur x end_ y end' _ bounded left right
  obtain ⟨a, mid, first, left⟩ := exists_of_bind left
  obtain ⟨b, mid', second, right⟩ := exists_of_bind right
  obtain ⟨rfl, rfl⟩ := Prod.mk.inj (Except.ok.inj (first.symm.trans second))
  exact next a mid x end_ y end' (reaches cur a mid first) (keeps cur a mid bounded first) left right

theorem Concur.peek {f : Option Char → Reader γ} {g : Option Char → Reader δ}
    (next : ∀ c?, Concur (Next c?) (f c?) (g c?) S) :
    Concur P (Reader.peek >>= f) (Reader.peek >>= g) S :=
  fun cur x end_ y end' _ => next cur.rest.head? cur x end_ y end' rfl

/-- The next character may be looked at. -/
theorem Concur.look (next : ∀ c?, Concur (Next c?) r s R) : Concur P r s R :=
  fun cur x end_ y end' _ => next cur.rest.head? cur x end_ y end' rfl

/-- A character that has been seen is seen again. -/
theorem Concur.peek_left {f : Option Char → Reader γ} {s : Reader δ}
    (h : Concur (Next c?) (f c?) s S) : Concur (Next c?) (Reader.peek >>= f) s S := by
  rintro cur x end_ y end' rfl
  exact h cur x end_ y end' rfl

theorem Concur.peek_right {g : Option Char → Reader δ} {r : Reader γ}
    (h : Concur (Next c?) r (g c?) S) : Concur (Next c?) r (Reader.peek >>= g) S := by
  rintro cur x end_ y end' rfl
  exact h cur x end_ y end' rfl

theorem Concur.past_spaces {f : Option Char → Reader γ} {g : Option Char → Reader δ}
    (next : ∀ c?, Concur (Solid c?) (f c?) (g c?) S) :
    Concur P (Reader.skipSpaces >>= f) (Reader.skipSpaces >>= g) S :=
  fun cur x end_ y end' _ bounded left right =>
    next _ cur.skipSpaces x end_ y end' ⟨cur.skipSpaces_idem, rfl⟩ bounded.skipSpaces left right

theorem skipSpaces_bind_of_solid {f : Option Char → Reader γ} {cur : Cursor}
    (solid : Solid c? cur) : (Reader.skipSpaces >>= f) cur = f c? cur := by
  rw [skipSpaces_bind, solid.1, solid.2]

/-- No blanks are passed over where none are. -/
theorem Concur.past_spaces_left {f : Option Char → Reader γ} {s : Reader δ} :
    Concur (Solid c?) (Reader.skipSpaces >>= f) s S ↔ Concur (Solid c?) (f c?) s S := by
  constructor
  · intro h cur x end_ y end' solid bounded left right
    exact h cur x end_ y end' solid bounded ((skipSpaces_bind_of_solid solid).trans left) right
  · intro h cur x end_ y end' solid bounded left right
    exact h cur x end_ y end' solid bounded ((skipSpaces_bind_of_solid solid).symm.trans left) right

/-- Blanks that both pass over may be passed over later on one side. -/
theorem Concur.past_spaces_later {f : Option Char → Reader γ} {g : Option Char → Reader δ}
    {r : Reader γ} (eq : r = Reader.skipSpaces >>= f)
    (next : ∀ c?, Concur (Solid c?) r (g c?) S) : Concur P r (Reader.skipSpaces >>= g) S := by
  subst eq
  exact Concur.past_spaces fun c? => Concur.past_spaces_left.mp (next c?)

theorem Concur.past_spaces_right {g : Option Char → Reader δ} {r : Reader γ} :
    Concur (Solid c?) r (Reader.skipSpaces >>= g) S ↔ Concur (Solid c?) r (g c?) S := by
  constructor
  · intro h cur x end_ y end' solid bounded left right
    exact h cur x end_ y end' solid bounded left ((skipSpaces_bind_of_solid solid).trans right)
  · intro h cur x end_ y end' solid bounded left right
    exact h cur x end_ y end' solid bounded left ((skipSpaces_bind_of_solid solid).symm.trans right)

/-- A bracket pair that is read has its body read, and then the closing bracket. -/
theorem exists_of_enclose {bracket : Bracket} {cur cur' : Cursor} {x : α}
    (run : bracket.enclose r cur = .ok (x, cur')) :
    ∃ mid, r cur = .ok (x, mid) ∧ bracket.close mid = .ok ((), cur') := by
  unfold Bracket.enclose at run
  cases first : r cur with
  | error e =>
    rw [first] at run
    cases e <;> cases run
  | ok p =>
    rw [first] at run
    dsimp only at run
    cases closed : bracket.close p.2 with
    | error e =>
      rw [closed] at run
      cases run
    | ok q =>
      rw [closed] at run
      obtain ⟨rfl, rfl⟩ := Prod.mk.inj (Except.ok.inj run)
      exact ⟨p.2, rfl, closed⟩

theorem Concur.enclose_right {bracket : Bracket} {r : Reader γ}
    (h : Concur P r (s >>= fun y => bracket.close >>= fun _ => g y) S) :
    Concur P r (bracket.enclose s >>= g) S := by
  intro cur x end_ y end' place bounded left right
  obtain ⟨z, after, enclosed, right⟩ := exists_of_bind right
  obtain ⟨mid, first, closed⟩ := exists_of_enclose enclosed
  have run : (bracket.close >>= fun _ => g z) mid = .ok (y, end') := by
    rw [bind_apply, closed]
    exact right
  refine h cur x end_ y end' place bounded left ?_
  rw [bind_apply, first]
  exact run

/-- A reader up to the closing bracket, and past it. -/
def closing (bracket : Bracket) (r : Reader α) : Reader α := do
  let x ← r
  bracket.close
  Pure.pure x

theorem closing_of_enclose {bracket : Bracket} {cur cur' : Cursor} {x : α}
    (run : bracket.enclose r cur = .ok (x, cur')) : closing bracket r cur = .ok (x, cur') := by
  obtain ⟨mid, first, closed⟩ := exists_of_enclose run
  have past : (bracket.close >>= fun _ => Pure.pure x) mid = .ok (x, cur') := by
    rw [bind_apply, closed]
    rfl
  rw [closing, bind_apply, first]
  exact past

/-- The two bodies of a bracket pair may end at different places in front of the closing bracket. -/
theorem Concur.closed {bracket : Bracket} (h : Concur P (closing bracket r) (closing bracket s) R) :
    Concur P (bracket.enclose r) (bracket.enclose s) R :=
  fun cur x end_ y end' place bounded left right =>
    h cur x end_ y end' place bounded (closing_of_enclose left) (closing_of_enclose right)

/-- A whole text is read by a run of the reader from its first character. -/
theorem exists_of_run {text : String} {x : α} (run : r.run text = .ok x) :
    ∃ cur, r (.ofText text) = .ok (x, cur) := by
  unfold Reader.run at run
  split at run
  · cases run
  · cases run
  · rename_i y cur first
    split at run
    · obtain rfl := Except.ok.inj run
      exact ⟨cur, first⟩
    · cases run

/-- Of a whole text that both read they give related values. -/
theorem Concur.run (h : Concur Anywhere r s R) {text : String} {x : α} {y : β}
    (left : r.run text = .ok x) (right : s.run text = .ok y) : R x y := by
  obtain ⟨end_, left⟩ := exists_of_run left
  obtain ⟨end', right⟩ := exists_of_run right
  have bounded : (Cursor.ofText text).Bounded := le_refl text.toList.length
  exact (h _ x end_ y end' trivial bounded left right).2.2

/-! ### Readers that keep the bound -/

/-- A reader that moves on keeps the bound, if it may stand behind any text. -/
theorem Moves.keeps {P : Condition} {Q : α → Condition} (h : Moves P r Q)
    (somewhere : ∃ behind, ∀ ahead, P behind ahead) : Keeps r := by
  intro cur x cur' bounded run
  obtain ⟨behind, place⟩ := somewhere
  obtain ⟨passed, eq, bound, -⟩ := h behind cur x cur' (place _) bounded run
  rw [Cursor.Bounded, eq, List.length_append] at bounded
  rw [Cursor.Bounded, bound]
  omega

theorem exists_tokens (tokens : List Token) : ∃ behind, Spaced tokens behind := by
  induction tokens with
  | nil => exact ⟨[], .nil⟩
  | cons t tokens ih => exact ⟨_, .token t ih.choose_spec⟩

/-- Some text ends with whole tokens. -/
theorem exists_behind {Φ : List Token → Prop} (tokens : List Token) (holds : Φ tokens) :
    ∃ behind, ∀ ahead, Tokens Φ behind ahead :=
  (exists_tokens tokens).imp fun _ spaced _ => ⟨tokens, spaced, holds⟩

theorem complete_null : Complete [.keyword .null] :=
  Awaiting.nil.append_value rfl rfl

theorem justOpened_bracket : JustOpened [.opening .array] :=
  Awaiting.nil.append_opening .array

theorem Keeps.advance : Keeps advance := by
  intro cur x cur' bounded run
  obtain ⟨-, rfl⟩ := Prod.mk.inj (Except.ok.inj run)
  cases eq : cur.rest with
  | nil => rwa [Cursor.advance, eq]
  | cons c rest =>
    rw [Cursor.Bounded, eq, List.length_cons] at bounded
    rw [Cursor.Bounded, (Cursor.advance_rest eq).1, (Cursor.advance_rest eq).2]
    omega

theorem Keeps.bound : Keeps bound := by
  intro cur x cur' bounded run
  obtain ⟨-, rfl⟩ := Prod.mk.inj (Except.ok.inj run)
  exact bounded

theorem Keeps.word (text : List Char) : Keeps (word text) :=
  (Moves.word (Φ := Awaiting) text).keeps ⟨[], fun _ => ⟨[], [], rfl, .nil, Awaiting.nil⟩⟩

theorem Keeps.colon : Keeps colon :=
  Moves.colon.keeps (exists_behind _ complete_null)

theorem Keeps.literal : Keeps literal :=
  Moves.literal.keeps ⟨['"'], fun _ => ⟨[], [], [], rfl, .nil, Awaiting.nil⟩⟩

theorem Keeps.hasItem (first : Bool) : Keeps (hasItem first) := by
  cases first with
  | true => exact (Moves.hasItem true).keeps (exists_behind _ justOpened_bracket)
  | false =>
    refine (Moves.hasItem false).keeps ?_
    exact (exists_behind _ complete_null).imp fun _ place ahead => .inl (place ahead)

theorem Keeps.hasMember (first : Bool) : Keeps (hasMember first) := by
  cases first with
  | true => exact (Moves.hasMember true).keeps (exists_behind _ justOpened_bracket)
  | false => exact (Moves.hasMember false).keeps (exists_behind _ complete_null)

theorem Keeps.close (bracket : Bracket) : Keeps bracket.close :=
  (Moves.close bracket).keeps (exists_behind _ (.inl complete_null))

theorem Concur.enclose (bracket : Bracket) (h : Concur P r s R) :
    Concur P (bracket.enclose r) (bracket.enclose s) R := by
  intro cur x end_ y end' place bounded left right
  obtain ⟨mid, first, closed⟩ := exists_of_enclose left
  obtain ⟨mid', first', closed'⟩ := exists_of_enclose right
  obtain ⟨rfl, bounded, related⟩ := h cur x mid y mid' place bounded first first'
  obtain ⟨-, rfl⟩ := Prod.mk.inj (Except.ok.inj (closed.symm.trans closed'))
  exact ⟨rfl, Keeps.close bracket _ _ _ bounded closed, related⟩

theorem Keeps.number (negative : Bool) : Keeps (number negative) :=
  (Moves.number negative).keeps ⟨[], fun _ => AfterSign.unsigned ⟨[], .nil, Awaiting.nil⟩⟩

theorem Concur.enter {room room' : Nat} {f : Nat → Reader γ} {g : Nat → Reader δ}
    (next : ∀ m n, Concur Anywhere (f m) (g n) S) :
    Concur P (Reader.enter room >>= f) (Reader.enter room' >>= g) S := by
  match room, room' with
  | 0, _ => exact Concur.of_left_fails fun _ _ _ run => nomatch run
  | _, 0 => exact Concur.of_right_fails fun _ _ _ run => nomatch run
  | m + 1, n + 1 => exact Concur.same Keeps.advance fun _ => next m n

/-! ### Values in two ways -/

mutual

/-- A value is the same whatever the fuel and the levels left, as long as they suffice. -/
theorem Concur.valueWith : (fuel fuel' room room' : Nat) →
    Concur Anywhere (valueWith fuel room) (valueWith fuel' room') Eq
  | 0, _, _, _ => Concur.of_left_fails (Ensures.failHere _ _)
  | _ + 1, 0, _, _ => Concur.of_right_fails (Ensures.failHere _ _)
  | fuel + 1, fuel' + 1, room, room' => by
    refine Concur.past_spaces fun c? => ?_
    split
    · exact Concur.of_left_fails (Ensures.failHere _ _)
    · exact Concur.same Keeps.advance fun _ => Concur.same (Keeps.word _) fun _ => Concur.pure rfl
    · exact Concur.same Keeps.advance fun _ => Concur.same (Keeps.word _) fun _ => Concur.pure rfl
    · exact Concur.same Keeps.advance fun _ => Concur.same (Keeps.word _) fun _ => Concur.pure rfl
    · exact Concur.same Keeps.advance fun _ => Concur.same Keeps.literal fun _ => Concur.pure rfl
    · exact Concur.same Keeps.advance fun _ =>
        Concur.same (Keeps.number true) fun _ => Concur.pure rfl
    · refine Concur.enter fun m n => ?_
      have items := Concur.itemsWith fuel fuel' m n true
      exact (Concur.enclose .array items).bind fun _ _ same => Concur.pure (congrArg _ same)
    · refine Concur.enter fun m n => ?_
      have members := Concur.membersWith fuel fuel' m n true []
      exact (Concur.enclose .object members).bind fun _ _ same => Concur.pure (congrArg _ same)
    · split
      · exact Concur.same (Keeps.number false) fun _ => Concur.pure rfl
      · exact Concur.of_left_fails (Ensures.failAhead _ _)

theorem Concur.itemsWith : (fuel fuel' room room' : Nat) → (first : Bool) →
    Concur Anywhere (itemsWith fuel room first) (itemsWith fuel' room' first) Eq
  | 0, _, _, _, _ => Concur.of_left_fails (Ensures.failHere _ _)
  | _ + 1, 0, _, _, _ => Concur.of_right_fails (Ensures.failHere _ _)
  | fuel + 1, fuel' + 1, room, room', first => by
    refine Concur.same (Keeps.hasItem first) fun more => ?_
    cases more with
    | false => exact Concur.pure rfl
    | true =>
      refine (Concur.valueWith fuel fuel' room room').bind fun item item' same => ?_
      refine (Concur.itemsWith fuel fuel' room room' false).bind fun rest rest' same' => ?_
      exact Concur.pure (congrArg₂ _ same same')

theorem Concur.membersWith : (fuel fuel' room room' : Nat) → (first : Bool) →
    (members : Members Json) →
    Concur Anywhere (membersWith fuel room first members) (membersWith fuel' room' first members) Eq
  | 0, _, _, _, _, _ => Concur.of_left_fails (Ensures.failHere _ _)
  | _ + 1, 0, _, _, _, _ => Concur.of_right_fails (Ensures.failHere _ _)
  | fuel + 1, fuel' + 1, room, room', first, members => by
    refine Concur.same (Keeps.hasMember first) fun more => ?_
    cases more with
    | false => exact Concur.pure rfl
    | true =>
      refine Concur.same Keeps.advance fun _ => Concur.same Keeps.literal fun name => ?_
      refine Concur.same Keeps.colon fun _ => ?_
      refine (Concur.valueWith fuel fuel' room room').bind fun value value' same => ?_
      exact same ▸ Concur.membersWith fuel fuel' room room' false _

end

end Reader

end RemoteAttach.Json
