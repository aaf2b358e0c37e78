import RemoteAttach.Json.Record
import RemoteAttach.Proofs.Json.Alike.Literal
import RemoteAttach.Proofs.Json.Alike.Number

/-! Values are read alike, whether their type is asked for or not, and so is everything that is made
of readers of values. The loops take their fuel from bounds that differ; both have enough for the
tokens ahead. -/

namespace RemoteAttach.Json.Reader

variable {α σ : Type} {Q : α → Cursor → Cursor → Prop} {n : Nat}

/-- A reader that takes a token at least, and reads texts of the same tokens alike. -/
def Steady (r : Reader α) : Prop :=
  ∀ n, Alike (Left (n + 1)) r r fun _ => Left n

mutual

/-- Values are read alike, with fuel for two calls on each token. -/
theorem Alike.valueWith : (fuel : Nat) → (fuel' n room : Nat) → 2 * n < fuel → 2 * n < fuel' →
    Alike (Left (n + 1)) (valueWith fuel room) (valueWith fuel' room) fun _ => Left n
  | 0, _, _, _, enough, _ => by omega
  | _, 0, _, _, _, enough => by omega
  | fuel + 1, fuel' + 1, n, room, enough, enough' => by
    refine Alike.past_spaces fun c? => ?_
    split
    · exact Alike.failHere _
    · exact Alike.keyword .null (Alike.pure fun _ _ => id)
    · exact Alike.keyword (.truth true) (Alike.pure fun _ _ => id)
    · exact Alike.keyword (.truth false) (Alike.pure fun _ _ => id)
    · exact Alike.quote.bind fun _ => Alike.literal.bind fun _ => Alike.pure fun _ _ => id
    · exact Alike.sign.bind fun _ => (Alike.number true).bind fun _ => Alike.pure fun _ _ => id
    · refine (Alike.enter (by decide) room).bind fun room => Alike.of_pos ?_
      rintro m rfl
      refine Alike.bind (Alike.enclose .array (Alike.itemsWith fuel fuel' m room true ?_ ?_))
        fun items => Alike.pure fun _ _ left => left.mono (by omega)
      · simp; omega
      · simp; omega
    · refine (Alike.enter (by decide) room).bind fun room => Alike.of_pos ?_
      rintro m rfl
      refine Alike.bind (Alike.enclose .object (Alike.membersWith fuel fuel' m room true [] ?_ ?_))
        fun members => Alike.pure fun _ _ left => left.mono (by omega)
      · omega
      · omega
    · split
      · rename_i digit
        refine Alike.strengthen ?_ fun a b => Facing.signed digit
        exact (Alike.number false).bind fun _ => Alike.pure fun _ _ => id
      · exact Alike.failAhead _

/-- Items are read alike. -/
theorem Alike.itemsWith : (fuel : Nat) → (fuel' n room : Nat) → (first : Bool) →
    2 * n + (if first then 1 else 0) < fuel → 2 * n + (if first then 1 else 0) < fuel' →
    Alike (Left (n + 1)) (itemsWith fuel room first) (itemsWith fuel' room first)
      fun _ => Left (n + 1)
  | 0, _, _, _, _, enough, _ => by omega
  | _, 0, _, _, _, _, enough => by omega
  | fuel + 1, fuel' + 1, n, room, first, enough, enough' => by
    refine (Alike.hasItem first).bind fun more => ?_
    cases more with
    | false => exact Alike.pure fun _ _ => id
    | true =>
      cases first with
      | true =>
        simp only [↓reduceIte] at enough enough'
        refine (Alike.valueWith fuel fuel' n room (by omega) (by omega)).bind fun item =>
          Alike.of_pos ?_
        rintro m rfl
        refine (Alike.itemsWith fuel fuel' m room false ?_ ?_).bind fun rest =>
          Alike.pure fun _ _ left => left.mono (by omega)
        · simp only [Bool.false_eq_true, ↓reduceIte]; omega
        · simp only [Bool.false_eq_true, ↓reduceIte]; omega
      | false =>
        simp only [Bool.false_eq_true, ↓reduceIte] at enough enough'
        refine Alike.of_pos ?_
        rintro m rfl
        refine (Alike.valueWith fuel fuel' m room (by omega) (by omega)).bind fun item =>
          Alike.of_pos ?_
        rintro k rfl
        refine (Alike.itemsWith fuel fuel' k room false ?_ ?_).bind fun rest =>
          Alike.pure fun _ _ left => left.mono (by omega)
        · simp only [Bool.false_eq_true, ↓reduceIte]; omega
        · simp only [Bool.false_eq_true, ↓reduceIte]; omega

/-- Members are read alike. -/
theorem Alike.membersWith : (fuel : Nat) → (fuel' n room : Nat) → (first : Bool) →
    (members : Members Json) → 2 * n < fuel → 2 * n < fuel' →
    Alike (Left (n + 1)) (membersWith fuel room first members)
      (membersWith fuel' room first members) fun _ => Left (n + 1)
  | 0, _, _, _, _, _, enough, _ => by omega
  | _, 0, _, _, _, _, _, enough => by omega
  | fuel + 1, fuel' + 1, n, room, first, members, enough, enough' => by
    refine (Alike.hasMember first).bind fun more => ?_
    cases more with
    | false => exact Alike.pure fun _ _ => id
    | true =>
      refine Alike.quote.bind fun _ => Alike.literal.bind fun name => Alike.of_pos ?_
      rintro m rfl
      refine Alike.colon.bind fun _ => Alike.of_pos ?_
      rintro k rfl
      refine (Alike.valueWith fuel fuel' k room (by omega) (by omega)).bind fun value =>
        Alike.of_pos ?_
      rintro l rfl
      exact (Alike.membersWith fuel fuel' l room false _ (by omega) (by omega)).weaken
        fun _ _ _ left => left.mono (by omega)

end

/-- The bound of either cursor covers the tokens ahead. -/
theorem Alike.bound {f g : Nat → Reader α}
    (h : ∀ m x y, m ≤ n → m ≤ x → m ≤ y → Alike (Left (m + 1)) (f x) (g y) Q) :
    Alike (Left (n + 1)) (Reader.bound >>= f) (Reader.bound >>= g) Q := by
  intro a b left
  obtain ⟨⟨tokens, few, apart, ha, hb⟩, bounded⟩ := left
  refine h tokens.length a.bound b.bound (by omega) (ha.length_le.trans bounded.1)
    (hb.length_le.trans bounded.2) a b ⟨⟨tokens, by omega, apart, ha, hb⟩, bounded⟩

/-- Values are read alike. -/
theorem Steady.value (room : Nat) : Steady (value room) := by
  intro n
  refine Alike.bound fun m x y le hx hy => ?_
  exact (Alike.valueWith _ _ m room (by omega) (by omega)).weaken
    fun _ _ _ left => left.mono le

/-! ### Values that nobody asks for -/

theorem Alike.skipName : Alike (Left (n + 1)) skipName skipName fun _ => Left n := by
  refine Alike.past_spaces fun c? => ?_
  split
  · refine Alike.quote.bind fun _ => Alike.skipString.bind fun _ => Alike.of_pos ?_
    rintro m rfl
    exact Alike.colon.weaken fun _ _ _ left => left.mono (by omega)
  · exact Alike.failAhead _
  · exact Alike.failHere _

mutual

/-- Values are passed over alike, with fuel for a call on each token. -/
theorem Alike.skipIn : (fuel : Nat) → (fuel' n : Nat) → (open_ : List Bracket) → n < fuel →
    n < fuel' → Alike (Left (n + 1)) (skipIn fuel open_) (skipIn fuel' open_) fun _ => Left n
  | 0, _, _, _, enough, _ => by omega
  | _, 0, _, _, _, enough => by omega
  | fuel + 1, fuel' + 1, n, open_, enough, enough' => by
    -- What follows the value is passed over with the fuel that is left.
    have after : Alike (Left n) (Reader.skipAfter fuel open_) (Reader.skipAfter fuel' open_)
        fun _ => Left n := by
      refine Alike.of_pos ?_
      rintro m rfl
      exact Alike.skipAfter fuel fuel' m open_ (by omega) (by omega)
    refine Alike.past_spaces fun c? => ?_
    split
    · exact Alike.failHere _
    · exact Alike.keyword .null after
    · exact Alike.keyword (.truth true) after
    · exact Alike.keyword (.truth false) after
    · exact Alike.sign.bind fun _ => Alike.skipNumber.bind fun _ => after
    · exact Alike.quote.bind fun _ => Alike.skipString.bind fun _ => after
    · refine (Alike.mark (by decide)).bind fun _ => Alike.of_pos ?_
      rintro m rfl
      refine Alike.past_spaces fun c? => ?_
      split
      · exact Alike.failHere _
      · exact (Alike.mark (by decide)).bind fun _ => after.strengthen fun _ _ left =>
          left.mono (by omega)
      · refine Alike.strengthen ?_ fun _ _ => Facing.left
        exact (Alike.skipIn fuel fuel' m (.array :: open_) (by omega) (by omega)).weaken
          fun _ _ _ left => left.mono (by omega)
    · refine (Alike.mark (by decide)).bind fun _ => Alike.of_pos ?_
      rintro m rfl
      refine Alike.past_spaces fun c? => ?_
      split
      · exact Alike.failHere _
      · exact (Alike.mark (by decide)).bind fun _ => after.strengthen fun _ _ left =>
          left.mono (by omega)
      · refine Alike.strengthen ?_ fun _ _ => Facing.left
        refine Alike.skipName.bind fun _ => Alike.of_pos ?_
        rintro k rfl
        exact (Alike.skipIn fuel fuel' k (.object :: open_) (by omega) (by omega)).weaken
          fun _ _ _ left => left.mono (by omega)
    · split
      · rename_i digit
        refine Alike.strengthen ?_ fun a b => Facing.signed digit
        exact Alike.skipNumber.bind fun _ => after
      · exact Alike.failAhead _

/-- What follows a value inside brackets is passed over alike. -/
theorem Alike.skipAfter : (fuel : Nat) → (fuel' n : Nat) → (open_ : List Bracket) → n < fuel →
    n < fuel' →
    Alike (Left (n + 1)) (skipAfter fuel open_) (skipAfter fuel' open_) fun _ => Left (n + 1)
  | 0, _, _, _, enough, _ => by omega
  | _, 0, _, _, _, enough => by omega
  | fuel + 1, fuel' + 1, n, [], _, _ => Alike.pure fun _ _ => id
  | fuel + 1, fuel' + 1, n, bracket :: outer, enough, enough' => by
    have further : Alike (Left n) (Reader.skipIn fuel (bracket :: outer))
        (Reader.skipIn fuel' (bracket :: outer)) fun _ => Left (n + 1) := by
      refine Alike.of_pos ?_
      rintro m rfl
      exact (Alike.skipIn fuel fuel' m (bracket :: outer) (by omega) (by omega)).weaken
        fun _ _ _ left => left.mono (by omega)
    have closed : Alike (Left n) (Reader.skipAfter fuel outer) (Reader.skipAfter fuel' outer)
        fun _ => Left (n + 1) := by
      refine Alike.of_pos ?_
      rintro m rfl
      exact (Alike.skipAfter fuel fuel' m outer (by omega) (by omega)).weaken
        fun _ _ _ left => left.mono (by omega)
    refine Alike.past_spaces fun c? => ?_
    split
    · exact Alike.failHere _
    · exact Alike.failHere _
    · exact (Alike.mark (by decide)).bind fun _ => further
    · refine (Alike.mark (by decide)).bind fun _ => Alike.of_pos ?_
      rintro m rfl
      exact Alike.skipName.bind fun _ => further.strengthen fun _ _ left => left.mono (by omega)
    · exact (Alike.mark (by decide)).bind fun _ => closed
    · exact (Alike.mark (by decide)).bind fun _ => closed
    · exact Alike.failAhead _
    · exact Alike.failAhead _

end

/-- Values are passed over alike. -/
theorem Steady.skipValue : Steady skipValue := by
  intro n
  refine Alike.bound fun m x y le hx hy => ?_
  exact (Alike.skipIn _ _ m [] (by omega) (by omega)).weaken fun _ _ _ left => left.mono le

/-! ### Values of a known type -/

theorem Facing.head {a b : Cursor} {c? : Option Char} (facing : Facing n a b c?) :
    a.rest.head? = c? ∧ b.rest.head? = c? := by
  cases facing with
  | none empty => simp [empty.1, empty.2]
  | some t head within =>
    obtain ⟨tokens, left, right, -, -, -, -, ha, hb⟩ := within.exists_rest
    rw [ha, hb, List.head?_append, List.head?_append, head]
    exact ⟨rfl, rfl⟩

/-- A value of a wrong type is reported alike. -/
theorem Alike.wrongType {c? : Option Char} (expected : Expected) :
    Alike (fun a b => Facing n a b c?) (wrongType expected) (wrongType expected) Q := by
  refine Alike.bind (Q := fun d? a b => Facing n a b d?) ?_ fun c? => ?_
  · intro a b facing
    obtain ⟨ha, hb⟩ := facing.head
    unfold Reader.peek
    rw [ha, hb]
    exact .ok facing
  · have fails (cause : Cause) : Alike (Left n) (Reader.failHere cause) (Reader.failHere cause) Q :=
      Alike.failHere cause
    split
    · exact Alike.keyword .null (fails _)
    · exact Alike.keyword (.truth true) (fails _)
    · exact Alike.keyword (.truth false) (fails _)
    · exact Alike.sign.bind fun _ => (Alike.number true).bind fun _ => fails _
    · exact Alike.quote.bind fun _ => Alike.literal.bind fun _ => fails _
    · exact Alike.failHere _
    · exact Alike.failHere _
    · split
      · rename_i digit
        refine Alike.strengthen ?_ fun a b => Facing.signed digit
        exact (Alike.number false).bind fun _ => fails _
      · exact Alike.failAhead _
    · exact Alike.failAhead _

/-- A reader that may take no token, and reads texts of the same tokens alike. -/
def SteadyBody (r : Reader α) : Prop :=
  ∀ n, Alike (Left (n + 1)) r r fun _ => Left (n + 1)

theorem Steady.body {r : Reader α} (h : Steady r) : SteadyBody r := fun n =>
  (h n).weaken fun _ _ _ left => left.mono (by omega)

theorem SteadyBody.pure (x : α) : SteadyBody (Pure.pure x : Reader α) := fun _ =>
  Alike.pure fun _ _ => id

theorem SteadyBody.bind {r : Reader α} {f : α → Reader σ} (h : SteadyBody r)
    (next : ∀ x, SteadyBody (f x)) : SteadyBody (r >>= f) := fun n =>
  (h n).bind fun x => next x n

theorem Steady.bind {r : Reader α} {f : α → Reader σ} (h : Steady r)
    (next : ∀ x, SteadyBody (f x)) : Steady (r >>= f) := fun n =>
  (h n).bind fun x => Alike.of_pos fun m eq => (next x m).weaken fun _ _ _ left =>
    left.mono (by omega)

/-- What is made of the value read does not matter. -/
theorem Steady.andThen {r : Reader α} (h : Steady r) (f : α → σ) :
    Steady (r >>= fun x => Pure.pure (f x)) :=
  h.bind fun _ => SteadyBody.pure _

theorem Steady.string : Steady string := by
  refine fun n => Alike.past_spaces fun c? => ?_
  split
  · exact Alike.failHere _
  · exact Alike.quote.bind fun _ => Alike.literal
  · exact Alike.wrongType _

theorem Steady.boolean : Steady boolean := by
  refine fun n => Alike.past_spaces fun c? => ?_
  split
  · exact Alike.failHere _
  · exact Alike.keyword (.truth true) (Alike.pure fun _ _ => id)
  · exact Alike.keyword (.truth false) (Alike.pure fun _ _ => id)
  · exact Alike.wrongType _

theorem Steady.optional {r : Reader α} (h : Steady r) : Steady (optional r) := by
  refine fun n => Alike.past_spaces fun c? => ?_
  split
  · exact Alike.keyword .null (Alike.pure fun _ _ => id)
  · exact ((h.andThen some) n).strengthen fun _ _ => Facing.left

theorem Alike.foldMembersWith {take : String → σ → Reader σ}
    (steady : ∀ name s, Steady (take name s))
    (fuel : Nat) {fuel' n : Nat} (first : Bool) (state : σ) (enough : n < fuel)
    (enough' : n < fuel') :
    Alike (Left (n + 1)) (foldMembersWith take fuel first state)
      (foldMembersWith take fuel' first state) fun _ => Left (n + 1) := by
  induction fuel generalizing fuel' n first state with
  | zero => omega
  | succ fuel ih =>
    obtain ⟨fuel', rfl⟩ : ∃ m, fuel' = m + 1 := ⟨fuel' - 1, by omega⟩
    refine (Alike.hasMember first).bind fun more => ?_
    cases more with
    | false => exact Alike.pure fun _ _ => id
    | true =>
      refine Alike.quote.bind fun _ => Alike.literal.bind fun name => Alike.of_pos ?_
      rintro m rfl
      refine (steady name state m).bind fun state => Alike.of_pos ?_
      rintro k rfl
      exact (ih false state (by omega) (by omega)).weaken fun _ _ _ left => left.mono (by omega)

theorem SteadyBody.foldMembers {take : String → σ → Reader σ}
    (steady : ∀ name s, Steady (take name s)) (state : σ) :
    SteadyBody (foldMembers take state) := by
  refine fun n => Alike.bound fun m x y le hx hy => ?_
  exact (Alike.foldMembersWith steady _ true state (by omega) (by omega)).weaken
    fun _ _ _ left => left.mono (by omega)

theorem Alike.eachItemWith {r : Reader α} (steady : Steady r) (fuel fuel' n : Nat)
    (first : Bool) (enough : n < fuel) (enough' : n < fuel') :
    Alike (Left (n + 1)) (eachItemWith r fuel first) (eachItemWith r fuel' first)
      fun _ => Left (n + 1) := by
  induction fuel generalizing fuel' n first with
  | zero => omega
  | succ fuel ih =>
    obtain ⟨fuel', rfl⟩ : ∃ m, fuel' = m + 1 := ⟨fuel' - 1, by omega⟩
    refine (Alike.hasItem first).bind fun more => ?_
    cases more with
    | false => exact Alike.pure fun _ _ => id
    | true =>
      refine Alike.strengthen ?_ fun a b (left : Left _ a b) => left.mono (m := n + 1) ?_
      · refine (steady n).bind fun item => Alike.of_pos ?_
        rintro m rfl
        exact (ih fuel' m false (by omega) (by omega)).bind fun rest => Alike.pure fun _ _ left =>
          left.mono (by omega)
      · split <;> omega

theorem Steady.list {reader : Nat → Reader α} (steady : ∀ room, Steady (reader room)) (room : Nat) :
    Steady (list reader room) := by
  refine fun n => Alike.past_spaces fun c? => ?_
  split
  · exact Alike.failHere _
  · refine (Alike.enter (by decide) room).bind fun room => Alike.of_pos ?_
    rintro m rfl
    refine Alike.bound fun k x y le hx hy => ?_
    have items := Alike.eachItemWith (steady room) (x + 1) (y + 1) k true (by omega) (by omega)
    exact (Alike.enclose .array items).weaken fun _ _ _ left => left.mono (by omega)
  · exact Alike.wrongType _

theorem Steady.map {r : Reader α} (steady : Steady r) (room : Nat) : Steady (map r room) := by
  refine fun n => Alike.past_spaces fun c? => ?_
  split
  · exact Alike.failHere _
  · refine (Alike.enter (by decide) room).bind fun room => Alike.of_pos ?_
    rintro m rfl
    refine (Alike.enclose .object (SteadyBody.foldMembers (fun name members => ?_) [] m)).weaken
      fun _ _ _ left => left.mono (by omega)
    exact Steady.bind (fun n => Alike.colon) fun _ => (steady.andThen _).body
  · exact Alike.wrongType _

theorem Steady.field {r : Reader α} (steady : Steady r) (name : String) (before : Option α) :
    Steady (field name before r) := by
  intro n
  unfold Reader.field
  split
  · exact Alike.failUnplaced _
  · exact Steady.bind (fun n => Alike.colon) (fun _ => (steady.andThen _).body) n

theorem Steady.skipMember : Steady skipMember :=
  Steady.bind (fun _ => Alike.colon) fun _ => Steady.skipValue.body

theorem SteadyBody.nextItem {r : Reader α} (steady : Steady r) (first : Bool) :
    SteadyBody (nextItem first r) := by
  refine fun n => (Alike.hasItem first).bind fun more => ?_
  cases more with
  | false => exact Alike.pure fun _ _ => id
  | true =>
    refine Alike.strengthen ((steady.andThen some).body n) fun a b (left : Left _ a b) =>
      left.mono ?_
    split <;> omega

theorem Alike.objectBody {r : Reader α} (body : SteadyBody r) (bracket : Bracket) :
    Alike (Left n) (bracket.enclose r) (bracket.enclose r) fun _ => Left n := by
  refine Alike.of_pos ?_
  rintro m rfl
  exact (Alike.enclose bracket (body m)).weaken fun _ _ _ left => left.mono (by omega)

theorem Steady.record {byName byOrder : Nat → Reader α} (name : String) (room : Nat)
    (named : ∀ room, SteadyBody (byName room)) (ordered : ∀ room, SteadyBody (byOrder room)) :
    Steady (record name room byName byOrder) := by
  refine fun n => Alike.past_spaces fun c? => ?_
  split
  · exact Alike.failHere _
  · exact (Alike.enter (by decide) room).bind fun room => Alike.objectBody (named room) .object
  · exact (Alike.enter (by decide) room).bind fun room => Alike.objectBody (ordered room) .array
  · exact Alike.wrongType _

theorem Steady.objectRecord {byName : Nat → Reader α} (name : String) (room : Nat)
    (named : ∀ room, SteadyBody (byName room)) : Steady (objectRecord name room byName) := by
  refine fun n => Alike.past_spaces fun c? => ?_
  split
  · exact Alike.failHere _
  · exact (Alike.enter (by decide) room).bind fun room => Alike.objectBody (named room) .object
  · exact Alike.wrongType _

/-! ### Whole texts -/

/-- Whole texts of the same tokens are read as the same value, or not for the same coarse cause. -/
theorem Steady.run {r : Reader α} (steady : Steady r) {tokens : List Token} {first second : String}
    (apart : tokens.IsChain Token.Apart) (h1 : Spaced tokens first.toList)
    (h2 : Spaced tokens second.toList) :
    (r.run first).mapError (·.cause.coarse) = (r.run second).mapError (·.cause.coarse) := by
  have start : Left (tokens.length + 1) (.ofText first) (.ofText second) :=
    ⟨⟨tokens, Nat.lt_succ_self _, apart, h1, h2⟩, Nat.le_refl _, Nat.le_refl _⟩
  have whole := steady tokens.length _ _ start
  unfold Reader.run
  generalize r (.ofText first) = x, r (.ofText second) = y at whole ⊢
  cases whole with
  | error cause =>
    rename_i e f
    cases e <;> cases f <;> exact congrArg Except.error cause
  | ok left =>
    rename_i v a b
    obtain ⟨rest, -, -, ha, hb⟩ := left.exists_tokens
    dsimp only
    rw [Cursor.skipSpaces_rest, Cursor.skipSpaces_rest]
    rcases ha.dropWhile with ⟨rfl, emptyA⟩ | ⟨t, ts, left, rfl, eqA, -⟩
    · rcases hb.dropWhile with ⟨-, emptyB⟩ | ⟨t, ts, -, impossible, -⟩
      · rw [emptyA, emptyB]
      · exact absurd impossible (by simp)
    · rcases hb.dropWhile with ⟨impossible, -⟩ | ⟨t', ts', right, -, eqB, -⟩
      · exact absurd impossible (by simp)
      · obtain ⟨c, more, eq⟩ := List.exists_cons_of_ne_nil t.text_ne_nil
        obtain ⟨c', more', eq'⟩ := List.exists_cons_of_ne_nil t'.text_ne_nil
        rw [eqA, eqB, eq, eq']
        rfl

end RemoteAttach.Json.Reader
