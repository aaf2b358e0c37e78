import RemoteAttach.Json.Document
import RemoteAttach.Proofs.Json.Moves.Literal
import RemoteAttach.Proofs.Json.Moves.Number

/-! A value that has been read, or passed over, is a run of tokens in order, and so is all that is
made of readers of values. A text that a reader of values accepts is nothing but such tokens with
blanks around them. -/

namespace RemoteAttach.Json.Reader

variable {α σ : Type} {P : Condition} {Q : α → Condition}

/-- A reader that takes a value where one may come. -/
def TakesValue (r : Reader α) : Prop :=
  Moves (Tokens Awaiting) r fun _ => Tokens Complete

mutual

theorem TakesValue.valueWith : (fuel room : Nat) → TakesValue (valueWith fuel room)
  | 0, _ => Moves.failHere _
  | fuel + 1, room => by
    have done {x : Json} : Moves (Tokens Complete) (Pure.pure x) fun _ => Tokens Complete :=
      Moves.pure fun _ _ => id
    refine Moves.past_spaces fun c? => ?_
    split
    · exact Moves.failHere _
    · exact Moves.keyword .null done
    · exact Moves.keyword (.truth true) done
    · exact Moves.keyword (.truth false) done
    · exact Moves.quote.bind fun _ => Moves.literal.bind fun _ => done
    · exact Moves.sign.bind fun _ => (Moves.number true).bind fun _ => done
    · refine (Moves.enter .array room).bind fun room => ?_
      exact (Moves.enclose .array (Moves.itemsWith fuel room true)).bind fun _ => done
    · refine (Moves.enter .object room).bind fun room => ?_
      exact (Moves.enclose .object (Moves.membersWith fuel room true [])).bind fun _ => done
    · split
      · refine Moves.strengthen ?_ fun _ _ place => AfterSign.unsigned place.1
        exact (Moves.number false).bind fun _ => done
      · exact Moves.failAhead _

theorem Moves.itemsWith : (fuel room : Nat) → (first : Bool) →
    Moves (if first then Tokens JustOpened else BetweenItems) (itemsWith fuel room first)
      fun _ => Tokens Closable
  | 0, _, _ => Moves.failHere _
  | fuel + 1, room, first => by
    refine (Moves.hasItem first).bind fun more => ?_
    cases more with
    | false => exact Moves.pure fun _ _ place => place.1
    | true =>
      refine Moves.bind (TakesValue.valueWith fuel room) fun item => ?_
      refine Moves.bind ((Moves.itemsWith fuel room false).strengthen fun _ _ => .inl) fun rest => ?_
      exact Moves.pure fun _ _ => id

theorem Moves.membersWith : (fuel room : Nat) → (first : Bool) → (members : Members Json) →
    Moves (Tokens (if first then JustOpened else Complete)) (membersWith fuel room first members)
      fun _ => Tokens Closable
  | 0, _, _, _ => Moves.failHere _
  | fuel + 1, room, first, members => by
    refine (Moves.hasMember first).bind fun more => ?_
    cases more with
    | false => exact Moves.pure fun _ _ => id
    | true =>
      refine Moves.quote.bind fun _ => Moves.literal.bind fun name => Moves.colon.bind fun _ => ?_
      exact Moves.bind (TakesValue.valueWith fuel room) fun value =>
        Moves.membersWith fuel room false _

end

theorem TakesValue.value (room : Nat) : TakesValue (value room) :=
  Moves.fuel fun _ => TakesValue.valueWith _ room

/-! ### Values that nobody asks for -/

/-- A name with its colon, where the quote of a name may come. -/
theorem Moves.skipName : Moves (Tokens Awaiting) skipName fun _ => Tokens Awaiting := by
  refine Moves.past_spaces fun c? => ?_
  split
  · exact Moves.quote.bind fun _ => Moves.skipString.bind fun _ => Moves.colon
  · exact Moves.failAhead _
  · exact Moves.failHere _

mutual

theorem Moves.skipIn : (fuel : Nat) → (open_ : List Bracket) →
    Moves (Tokens Awaiting) (skipIn fuel open_) fun _ => Tokens Complete
  | 0, _ => Moves.failHere _
  | fuel + 1, open_ => by
    have after := Moves.skipAfter fuel open_
    refine Moves.past_spaces fun c? => ?_
    split
    · exact Moves.failHere _
    · exact Moves.keyword .null after
    · exact Moves.keyword (.truth true) after
    · exact Moves.keyword (.truth false) after
    · exact Moves.sign.bind fun _ => Moves.skipNumber.bind fun _ => after
    · exact Moves.quote.bind fun _ => Moves.skipString.bind fun _ => after
    · refine Moves.bind (Moves.mark (.opening .array) rfl fun _ h => h.append_opening _) fun _ => ?_
      refine Moves.past_spaces fun c? => ?_
      split
      · exact Moves.failHere _
      · refine Moves.bind (Moves.mark (.closing .array) rfl fun _ h => ?_) fun _ => after
        exact Closable.append_closing (.inr h) _
      · refine (Moves.skipIn fuel (.array :: open_)).strengthen fun _ _ place => ?_
        exact Tokens.imp (fun _ => JustOpened.awaiting) place.1
    · refine Moves.bind (Moves.mark (.opening .object) rfl fun _ h => h.append_opening _) fun _ => ?_
      refine Moves.past_spaces fun c? => ?_
      split
      · exact Moves.failHere _
      · refine Moves.bind (Moves.mark (.closing .object) rfl fun _ h => ?_) fun _ => after
        exact Closable.append_closing (.inr h) _
      · refine Moves.strengthen ?_ fun _ _ place => Tokens.imp (fun _ => JustOpened.awaiting) place.1
        exact Moves.skipName.bind fun _ => Moves.skipIn fuel (.object :: open_)
    · split
      · refine Moves.strengthen ?_ fun _ _ place => AfterSign.unsigned place.1
        exact Moves.skipNumber.bind fun _ => after
      · exact Moves.failAhead _

theorem Moves.skipAfter : (fuel : Nat) → (open_ : List Bracket) →
    Moves (Tokens Complete) (skipAfter fuel open_) fun _ => Tokens Complete
  | 0, [] => Moves.pure fun _ _ => id
  | fuel + 1, [] => Moves.pure fun _ _ => id
  | 0, _ :: _ => Moves.failHere _
  | fuel + 1, bracket :: outer => by
    have further := Moves.skipIn fuel (bracket :: outer)
    have closed := Moves.skipAfter fuel outer
    refine Moves.past_spaces fun c? => ?_
    split
    · exact Moves.failHere _
    · exact Moves.failHere _
    · exact Moves.comma.bind fun _ => further
    · exact Moves.comma.bind fun _ => Moves.skipName.bind fun _ => further
    · refine Moves.bind (Moves.mark (.closing .array) rfl fun _ h => ?_) fun _ => closed
      exact Closable.append_closing (.inl h) _
    · refine Moves.bind (Moves.mark (.closing .object) rfl fun _ h => ?_) fun _ => closed
      exact Closable.append_closing (.inl h) _
    · exact Moves.failAhead _
    · exact Moves.failAhead _

end

theorem TakesValue.skipValue : TakesValue skipValue :=
  Moves.fuel fun _ => Moves.skipIn _ []

/-! ### Values of a known type -/

/-- What is made of the value read does not matter. -/
theorem TakesValue.andThen {r : Reader α} (h : TakesValue r) (f : α → σ) :
    TakesValue (r >>= fun x => Pure.pure (f x)) :=
  Moves.bind h fun _ => Moves.pure fun _ _ => id

theorem TakesValue.string : TakesValue string := by
  refine Moves.past_spaces fun c? => ?_
  split
  · exact Moves.failHere _
  · exact Moves.quote.bind fun _ => Moves.literal
  · exact Moves.wrongType _

theorem TakesValue.boolean : TakesValue boolean := by
  refine Moves.past_spaces fun c? => ?_
  split
  · exact Moves.failHere _
  · exact Moves.keyword (.truth true) (Moves.pure fun _ _ => id)
  · exact Moves.keyword (.truth false) (Moves.pure fun _ _ => id)
  · exact Moves.wrongType _

theorem TakesValue.optional {r : Reader α} (h : TakesValue r) : TakesValue (optional r) := by
  refine Moves.past_spaces fun c? => ?_
  split
  · exact Moves.keyword .null (Moves.pure fun _ _ => id)
  · exact Moves.forget (h.andThen some)

/-- A reader that takes the value of a member, from the colon on. -/
def TakesMember (r : Reader α) : Prop :=
  Moves (Tokens Complete) r fun _ => Tokens Complete

/-- A colon and a value. -/
theorem TakesMember.colon {r : Reader α} (h : TakesValue r) :
    TakesMember (Reader.colon >>= fun _ => r) :=
  Moves.colon.bind fun _ => h

theorem TakesMember.andThen {r : Reader α} (h : TakesMember r) (f : α → σ) :
    TakesMember (r >>= fun x => Pure.pure (f x)) :=
  Moves.bind h fun _ => Moves.pure fun _ _ => id

theorem TakesMember.field {r : Reader α} (h : TakesValue r) (name : String) (before : Option α) :
    TakesMember (field name before r) := by
  unfold Reader.field
  split
  · exact Moves.failUnplaced _
  · exact TakesMember.colon (h.andThen some)

theorem TakesMember.skipMember : TakesMember skipMember :=
  TakesMember.colon TakesValue.skipValue

theorem Moves.foldMembersWith {take : String → σ → Reader σ}
    (each : ∀ name s, TakesMember (take name s)) (fuel : Nat) (first : Bool) (state : σ) :
    Moves (Tokens (if first then JustOpened else Complete)) (foldMembersWith take fuel first state)
      fun _ => Tokens Closable := by
  induction fuel generalizing first state with
  | zero => exact Moves.failHere _
  | succ fuel ih =>
    refine (Moves.hasMember first).bind fun more => ?_
    cases more with
    | false => exact Moves.pure fun _ _ => id
    | true =>
      refine Moves.quote.bind fun _ => Moves.literal.bind fun name => ?_
      exact Moves.bind (each name state) fun state => ih false state

/-- What stands in an object, after its opening bracket. -/
theorem Moves.foldMembers {take : String → σ → Reader σ}
    (each : ∀ name s, TakesMember (take name s)) (state : σ) :
    Moves (Tokens JustOpened) (foldMembers take state) fun _ => Tokens Closable :=
  Moves.fuel fun _ => Moves.foldMembersWith each _ true state

theorem Moves.eachItemWith {r : Reader α} (h : TakesValue r) (fuel : Nat) (first : Bool) :
    Moves (if first then Tokens JustOpened else BetweenItems) (eachItemWith r fuel first)
      fun _ => Tokens Closable := by
  induction fuel generalizing first with
  | zero => exact Moves.failHere _
  | succ fuel ih =>
    refine (Moves.hasItem first).bind fun more => ?_
    cases more with
    | false => exact Moves.pure fun _ _ place => place.1
    | true =>
      refine Moves.bind h fun item => ?_
      refine Moves.bind ((ih false).strengthen fun _ _ => .inl) fun rest => ?_
      exact Moves.pure fun _ _ => id

/-- The next item of an array for a field, if there is one. -/
theorem Moves.nextItem {r : Reader α} (h : TakesValue r) (first : Bool) :
    Moves (if first then Tokens JustOpened else BetweenItems) (nextItem first r)
      fun _ => BetweenItems := by
  refine (Moves.hasItem first).bind fun more => ?_
  cases more with
  | false => exact Moves.pure fun _ _ => AtArrayEnd.betweenItems
  | true => exact Moves.weaken (h.andThen some) fun _ _ _ => .inl

theorem TakesValue.list {reader : Nat → Reader α} (h : ∀ room, TakesValue (reader room))
    (room : Nat) : TakesValue (list reader room) := by
  refine Moves.past_spaces fun c? => ?_
  split
  · exact Moves.failHere _
  · refine (Moves.enter .array room).bind fun room => Moves.fuel fun fuel => ?_
    exact Moves.enclose .array (Moves.eachItemWith (h room) _ true)
  · exact Moves.wrongType _

theorem TakesValue.map {r : Reader α} (h : TakesValue r) (room : Nat) :
    TakesValue (map r room) := by
  refine Moves.past_spaces fun c? => ?_
  split
  · exact Moves.failHere _
  · refine (Moves.enter .object room).bind fun _ => Moves.enclose .object (Moves.foldMembers ?_ [])
    exact fun name members => TakesMember.colon (h.andThen _)
  · exact Moves.wrongType _

theorem BetweenItems.closable {behind ahead : List Char} (h : BetweenItems behind ahead) :
    Tokens Closable behind ahead := by
  rcases h with place | ⟨place, -⟩
  · exact Tokens.imp (fun _ => .inl) place
  · exact Tokens.imp (fun _ => .inr) place

theorem TakesValue.record {byName byOrder : Nat → Reader α} (name : String) (room : Nat)
    (named : ∀ room, Moves (Tokens JustOpened) (byName room) fun _ => Tokens Closable)
    (ordered : ∀ room, Moves (Tokens JustOpened) (byOrder room) fun _ => BetweenItems) :
    TakesValue (record name room byName byOrder) := by
  refine Moves.past_spaces fun c? => ?_
  split
  · exact Moves.failHere _
  · exact (Moves.enter .object room).bind fun room => Moves.enclose .object (named room)
  · refine (Moves.enter .array room).bind fun room => Moves.enclose .array ?_
    exact (ordered room).weaken fun _ _ _ => BetweenItems.closable
  · exact Moves.wrongType _

theorem TakesValue.objectRecord {byName : Nat → Reader α} (name : String) (room : Nat)
    (named : ∀ room, Moves (Tokens JustOpened) (byName room) fun _ => Tokens Closable) :
    TakesValue (objectRecord name room byName) := by
  refine Moves.past_spaces fun c? => ?_
  split
  · exact Moves.failHere _
  · exact (Moves.enter .object room).bind fun room => Moves.enclose .object (named room)
  · exact Moves.wrongType _

/-! ### Whole texts -/

/-- A text that is accepted is a value's tokens in order with blanks around them. -/
theorem TakesValue.exists_tokens {r : Reader α} (h : TakesValue r) {text : String} {x : α}
    (run : r.run text = .ok x) : ∃ tokens, Spaced tokens text.toList ∧ Complete tokens := by
  unfold Reader.run at run
  split at run
  · cases run
  · cases run
  · rename_i y cur read
    obtain ⟨passed, eq, -, tokens, spaced, complete⟩ := h [] (.ofText text) y cur
      ⟨[], .nil, .nil⟩ (Nat.le_refl _) read
    split at run
    · rename_i rest
      refine ⟨tokens, ?_, complete⟩
      have blanks : Spaced [] cur.rest := Spaced.of_blanks ?_
      · have whole : text.toList = passed ++ cur.rest := eq
        rw [whole]
        simpa using spaced.append blanks
      · rw [Cursor.skipSpaces_rest] at rest
        simpa [List.dropWhile_eq_nil_iff] using rest
    · cases run

end RemoteAttach.Json.Reader
