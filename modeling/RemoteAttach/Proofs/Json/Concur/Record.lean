import RemoteAttach.Proofs.Json.Concur.Skip
import RemoteAttach.Proofs.Json.Members

/-! A value of a known type is read from the same characters as a value of any type, which it
interprets. -/

namespace RemoteAttach.Json.Reader

variable {α β σ : Type} {P : Cursor → Prop} {r : Reader α} {R : α → Json → Prop}

/-- What the reader reads stands, in the sense of `R`, for the value that is there. -/
def Interprets (r : Reader α) (R : α → Json → Prop) : Prop :=
  ∀ fuel room, Concur Anywhere r (valueWith fuel room) R

/-- What the reader reads after a member's name stands for the member's value. -/
def InterpretsMember (r : Reader α) (R : α → Json → Prop) : Prop :=
  ∀ fuel room, Concur Anywhere r (colon >>= fun _ => valueWith fuel room) R

/-- A value that stands for another, or nothing, which stands for `null`. -/
def OrNull (R : α → Json → Prop) : Option α → Json → Prop
  | none, v => v = .null
  | some x, v => R x v

/-- A record that stands for an object, or for an array of its fields. -/
def OfRecord (I : α → Members Json → Prop) (J : α → List Json → Prop) (x : α) : Json → Prop
  | .object members => I x members
  | .array items => J x items
  | _ => False

/-- A record that stands for an object. Nothing is said of a record that is given as an array. -/
abbrev OfMembers (I : α → Members Json → Prop) : α → Json → Prop :=
  OfRecord I fun _ _ => True

/-! ### Scalars -/

theorem Interprets.andThen {R' : β → Json → Prop} (h : Interprets r R) {f : α → β}
    (implies : ∀ x v, R x v → R' (f x) v) : Interprets (r >>= fun x => Pure.pure (f x)) R' :=
  fun fuel room => (h fuel room).bind_left fun x v related => Concur.pure (implies x v related)

theorem Interprets.value (room : Nat) : Interprets (value room) fun x v => v = x := by
  intro fuel room' cur x end_ y end' place bounded left right
  obtain ⟨rfl, bounded, same⟩ :=
    Concur.valueWith _ fuel room room' cur x end_ y end' trivial bounded left right
  exact ⟨rfl, bounded, same.symm⟩

theorem Interprets.string : Interprets string fun text v => v = .string text := by
  intro fuel room
  cases fuel with
  | zero => exact Concur.of_right_fails (Ensures.failHere _ _)
  | succ fuel =>
    refine Concur.past_spaces fun c? => ?_
    split
    · exact Concur.of_left_fails (Ensures.failHere _ _)
    · refine Concur.same Keeps.advance fun _ => ?_
      exact (Concur.refl Keeps.literal).bind_right fun _ _ same => Concur.pure (congrArg _ same.symm)
    · exact Concur.of_left_fails (Ensures.wrongType _ _)

theorem Interprets.boolean : Interprets boolean fun b v => v = .bool b := by
  intro fuel room
  cases fuel with
  | zero => exact Concur.of_right_fails (Ensures.failHere _ _)
  | succ fuel =>
    refine Concur.past_spaces fun c? => ?_
    split
    · exact Concur.of_left_fails (Ensures.failHere _ _)
    · exact Concur.same Keeps.advance fun _ => Concur.same (Keeps.word _) fun _ => Concur.pure rfl
    · exact Concur.same Keeps.advance fun _ => Concur.same (Keeps.word _) fun _ => Concur.pure rfl
    · exact Concur.of_left_fails (Ensures.wrongType _ _)

theorem Interprets.optional (h : Interprets r R) : Interprets (optional r) (OrNull R) := by
  intro fuel room
  have some_ : Concur Anywhere (r >>= fun x => Pure.pure (some x)) (valueWith fuel room) (OrNull R) :=
    (h fuel room).bind_left fun x v related => Concur.pure related
  cases fuel with
  | zero => exact Concur.of_right_fails (Ensures.failHere _ _)
  | succ fuel =>
    refine Concur.past_spaces fun c? => ?_
    split
    · exact Concur.same Keeps.advance fun _ => Concur.same (Keeps.word _) fun _ => Concur.pure rfl
    · exact Concur.past_spaces_right.mp some_.anywhere

/-! ### Objects -/

theorem InterpretsMember.colon (h : Interprets r R) :
    InterpretsMember (Reader.colon >>= fun _ => r) R :=
  fun fuel room => Concur.same Keeps.colon fun _ => h fuel room

theorem InterpretsMember.andThen {R' : β → Json → Prop} (h : InterpretsMember r R) {f : α → β}
    (implies : ∀ x v, R x v → R' (f x) v) :
    InterpretsMember (r >>= fun x => Pure.pure (f x)) R' :=
  fun fuel room => (h fuel room).bind_left fun x v related => Concur.pure (implies x v related)

/-- A field that is read once stands for the value of its member. -/
theorem InterpretsMember.fieldThen {R' : β → Json → Prop} (h : Interprets r R) {name : String}
    {before : Option α} {f : Option α → β} (implies : ∀ x v, R x v → R' (f (some x)) v) :
    InterpretsMember (field name before r >>= fun x? => Pure.pure (f x?)) R' := by
  intro fuel room
  unfold Reader.field
  split
  · exact Concur.of_left_fails (Ensures.failUnplaced _ _ |>.bind fun _ => False.elim)
  · simp only [bind_assoc, pure_bind]
    refine Concur.same Keeps.colon fun _ => ?_
    exact (h fuel room).bind_left fun x v related => Concur.pure (implies x v related)

theorem InterpretsMember.skipMember : InterpretsMember skipMember fun _ _ => True :=
  InterpretsMember.colon Concur.skipValue

theorem Concur.foldMembersWith {take : String → σ → Reader σ} {I : σ → Members Json → Prop}
    (step : ∀ name state members, I state members →
      InterpretsMember (take name state) fun state v => I state (members.insert name v))
    (n fuel room : Nat) (first : Bool) {state : σ} {members : Members Json}
    (start : I state members) :
    Concur Anywhere (foldMembersWith take n first state)
      (Reader.membersWith fuel room first members) I := by
  induction n generalizing fuel first state members with
  | zero => exact Concur.of_left_fails (Ensures.failHere _ _)
  | succ n ih =>
    cases fuel with
    | zero => exact Concur.of_right_fails (Ensures.failHere _ _)
    | succ fuel =>
      refine Concur.same (Keeps.hasMember first) fun more => ?_
      cases more with
      | false => exact Concur.pure start
      | true =>
        refine Concur.same Keeps.advance fun _ => Concur.same Keeps.literal fun name => ?_
        have rest := (step name state members start fuel room).bind fun state v kept =>
          ih fuel false kept
        rwa [bind_assoc] at rest

theorem Concur.foldMembers {take : String → σ → Reader σ} {I : σ → Members Json → Prop}
    (step : ∀ name state members, I state members →
      InterpretsMember (take name state) fun state v => I state (members.insert name v))
    {state : σ} (start : I state []) (fuel room : Nat) :
    Concur Anywhere (foldMembers take state) (Reader.membersWith fuel room true []) I :=
  fun cur => Concur.foldMembersWith step (cur.bound + 1) fuel room true start cur

/-- A map stands for an object with its members, each by what stands for its value. -/
theorem Interprets.map (toJson : α → Json) (h : Interprets r fun x v => v = toJson x) (room : Nat) :
    Interprets (map r room) fun members v =>
      v = .object (members.map fun member => (member.1, toJson member.2)) := by
  have step (name : String) (members : Members α) (values : Members Json)
      (same : values = members.map fun member => (member.1, toJson member.2)) :
      InterpretsMember (Reader.colon >>= fun _ => r >>= fun x => Pure.pure (members.insert name x))
        fun members v => values.insert name v =
          members.map fun member => (member.1, toJson member.2) :=
    InterpretsMember.colon (h.andThen fun x v eq => by rw [same, eq, Members.map_insert])
  intro fuel room'
  cases fuel with
  | zero => exact Concur.of_right_fails (Ensures.failHere _ _)
  | succ fuel =>
    refine Concur.past_spaces fun c? => ?_
    split
    · exact Concur.of_left_fails (Ensures.failHere _ _)
    · refine Concur.enter fun m n => ?_
      exact (Concur.enclose .object (Concur.foldMembers step rfl fuel n)).bind_right
        fun members values same => Concur.pure (congrArg Json.object same)
    · exact Concur.of_left_fails (Ensures.wrongType _ _)

theorem Interprets.objectRecord {name : String} {room : Nat} {byName : Nat → Reader α}
    {I : α → Members Json → Prop}
    (named : ∀ inside fuel room,
      Concur Anywhere (byName inside) (Reader.membersWith fuel room true []) I) :
    Interprets (objectRecord name room byName) fun x v => ∃ members, v = .object members ∧ I x members := by
  intro fuel room'
  cases fuel with
  | zero => exact Concur.of_right_fails (Ensures.failHere _ _)
  | succ fuel =>
    refine Concur.past_spaces fun c? => ?_
    split
    · exact Concur.of_left_fails (Ensures.failHere _ _)
    · refine Concur.enter fun m n => ?_
      exact (Concur.enclose .object (named m fuel n)).bind_right fun x members related =>
        Concur.pure ⟨members, rfl, related⟩
    · exact Concur.of_left_fails (Ensures.wrongType _ _)

/-! ### Arrays -/

theorem Concur.eachItemWith (h : Interprets r R) (n fuel room : Nat) (first : Bool) :
    Concur Anywhere (eachItemWith r n first) (Reader.itemsWith fuel room first)
      (List.Forall₂ R) := by
  induction n generalizing fuel first with
  | zero => exact Concur.of_left_fails (Ensures.failHere _ _)
  | succ n ih =>
    cases fuel with
    | zero => exact Concur.of_right_fails (Ensures.failHere _ _)
    | succ fuel =>
      refine Concur.same (Keeps.hasItem first) fun more => ?_
      cases more with
      | false => exact Concur.pure .nil
      | true =>
        refine (h fuel room).bind fun x v related => (ih fuel false).bind fun xs vs each => ?_
        exact Concur.pure (.cons related each)

/-- A list stands for an array item by item. -/
theorem Interprets.list {reader : Nat → Reader α} (h : ∀ inside, Interprets (reader inside) R)
    (room : Nat) : Interprets (list reader room) fun xs v =>
      ∃ items, v = .array items ∧ List.Forall₂ R xs items := by
  intro fuel room'
  cases fuel with
  | zero => exact Concur.of_right_fails (Ensures.failHere _ _)
  | succ fuel =>
    refine Concur.past_spaces fun c? => ?_
    split
    · exact Concur.of_left_fails (Ensures.failHere _ _)
    · refine Concur.enter fun m n => ?_
      have items : Concur Anywhere (bound >>= fun k => Reader.eachItemWith (reader m) (k + 1) true)
          (itemsWith fuel n true) (List.Forall₂ R) :=
        fun cur => Concur.eachItemWith (h m) (cur.bound + 1) fuel n true cur
      exact (Concur.enclose .array items).bind_right fun xs vs each => Concur.pure ⟨vs, rfl, each⟩
    · exact Concur.of_left_fails (Ensures.wrongType _ _)

/-! ### Records in the form of arrays -/

/-- The reader takes the rest of an array, up to its bracket, for what stands for the items. -/
def InOrder (r : Reader α) (first : Bool) (J : α → List Json → Prop) : Prop :=
  ∀ fuel room, Concur Anywhere (closing .array r) (closing .array (itemsWith fuel room first)) J

theorem solid_of_hasItem {first : Bool} {cur mid : Cursor}
    (run : hasItem first cur = .ok (false, mid)) : Solid (some ']') mid := by
  have goesOn {r : Reader Bool} {cur : Cursor} (h : Ensures r fun more => more = true)
      (run : r cur = .ok (false, mid)) : Solid (some ']') mid :=
    absurd (h _ _ _ run) Bool.false_ne_true
  unfold Reader.hasItem at run
  rw [skipSpaces_bind] at run
  generalize head : cur.skipSpaces.rest.head? = c? at run
  split at run
  · exact goesOn (Ensures.failHere _ _) run
  · obtain ⟨-, rfl⟩ := Prod.mk.inj (Except.ok.inj run)
    exact ⟨cur.skipSpaces_idem, head⟩
  · refine goesOn ?_ run
    split
    · exact Ensures.pure rfl
    · split
      · refine Ensures.last fun _ => Ensures.last fun c? => ?_
        split
        · exact Ensures.failAhead _ _
        · exact Ensures.pure rfl
        · exact Ensures.failHere _ _
      · exact Ensures.failAhead _ _

theorem InOrder.nextItem {f : Option α → Reader β} {first : Bool} {J : β → List Json → Prop}
    {K : Option α → β → List Json → Prop} (h : Interprets r R)
    (next : ∀ x?, InOrder (f x?) false (K x?))
    (there : ∀ x v y items, R x v → K (some x) y items → J y (v :: items))
    (gone : ∀ y, K none y [] → J y []) : InOrder (nextItem first r >>= f) first J := by
  intro fuel room
  cases fuel with
  | zero => exact Concur.of_right_fails fun _ _ _ run => nomatch run
  | succ fuel =>
    rw [Reader.nextItem, Reader.itemsWith]
    simp only [closing, bind_assoc]
    refine Concur.same_place (Q := fun more cur => more = false → Solid (some ']') cur)
      (Keeps.hasItem first) (fun cur more mid run closing => solid_of_hasItem (closing ▸ run)) ?_
    intro more
    cases more with
    | true =>
      have item := (h fuel room).bind fun x v related =>
        (next (some x) fuel room).bind_right fun y items rest =>
          Concur.pure (there x v y items related rest)
      simpa only [closing, ↓reduceIte, bind_assoc, pure_bind] using item.anywhere
    | false =>
      refine Concur.strengthen (P := Solid (some ']')) ?_ fun cur closing => closing rfl
      have rest := next none 1 room
      rw [closing, closing, Reader.itemsWith] at rest
      unfold Reader.hasItem at rest
      rw [bind_assoc, bind_assoc] at rest
      have done := Concur.past_spaces_right.mp (rest.anywhere (P := Solid (some ']')))
      simp only [Bool.false_eq_true, ↓reduceIte, pure_bind] at done ⊢
      have empty : Ensures (Bracket.array.close >>= fun _ => Pure.pure ([] : List Json))
          fun items => items = [] := Ensures.last fun _ => Ensures.pure rfl
      exact done.weaken_of_ensures empty fun y items rest eq => eq ▸ gone y (eq ▸ rest)

/-- Nothing is said of an array. -/
theorem InOrder.anyItem {f : Option α → Reader β} {first : Bool} (h : Interprets r R)
    (next : ∀ x?, InOrder (f x?) false fun _ _ => True) :
    InOrder (Reader.nextItem first r >>= f) first fun _ _ => True :=
  .nextItem h next (fun _ _ _ _ _ _ => trivial) fun _ _ => trivial

theorem InOrder.pure {x : α} {J : α → List Json → Prop} (done : J x []) :
    InOrder (Pure.pure x) false J := by
  intro fuel room
  cases fuel with
  | zero => exact Concur.of_right_fails fun _ _ _ run => nomatch run
  | succ fuel =>
    have close {γ : Type} (y : γ) : (Bracket.array.close >>= fun _ => Pure.pure y) = _ :=
      bind_assoc Reader.skipSpaces _ _
    rw [closing, closing, pure_bind, Reader.itemsWith, close]
    unfold Reader.hasItem
    rw [bind_assoc, bind_assoc]
    refine Concur.past_spaces fun c? => ?_
    split
    · simp only [Bool.false_eq_true, ↓reduceIte, pure_bind]
      rw [close]
      exact Concur.past_spaces_right.mpr (Concur.same Keeps.advance fun _ => Concur.pure done)
    · refine Concur.of_left_fails (Ensures.bind (P := fun _ => False) ?_ fun _ => False.elim)
      refine Ensures.last fun _ => Ensures.last fun c? => ?_
      split
      · exact Ensures.failAhead _ _
      · exact Ensures.failAhead _ _
    · exact Concur.of_left_fails (Ensures.failAhead _ _)
    · exact Concur.of_left_fails (Ensures.failHere _ _)

theorem Interprets.record {name : String} {room : Nat} {byName byOrder : Nat → Reader α}
    {I : α → Members Json → Prop} {J : α → List Json → Prop}
    (named : ∀ inside fuel room,
      Concur Anywhere (byName inside) (Reader.membersWith fuel room true []) I)
    (ordered : ∀ inside, InOrder (byOrder inside) true J) :
    Interprets (record name room byName byOrder) (OfRecord I J) := by
  intro fuel room'
  cases fuel with
  | zero => exact Concur.of_right_fails (Ensures.failHere _ _)
  | succ fuel =>
    refine Concur.past_spaces fun c? => ?_
    split
    · exact Concur.of_left_fails (Ensures.failHere _ _)
    · refine Concur.enter fun m n => ?_
      exact (Concur.enclose .object (named m fuel n)).bind_right fun x members related =>
        Concur.pure related
    · refine Concur.enter fun m n => ?_
      exact (Concur.closed (ordered m fuel n)).bind_right fun x items related =>
        Concur.pure related
    · exact Concur.of_left_fails (Ensures.wrongType _ _)

end RemoteAttach.Json.Reader
