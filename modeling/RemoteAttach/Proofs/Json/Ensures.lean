import Mathlib.Data.List.DropRight
import Mathlib.Data.String.Basic
import RemoteAttach.Json.Record
import RemoteAttach.Proofs.Json.Token

/-! What every successful run of a reader ensures of the value read. A value that has been read fits
in the levels that were left for it, and the members of its objects stand by rising name. -/

namespace RemoteAttach

namespace Members

variable {α : Type}

/-- Each name once, and by rising name. -/
def Sorted (members : Members α) : Prop :=
  members.Pairwise fun first second => first.1 < second.1

theorem Sorted.nil : Sorted ([] : Members α) :=
  List.Pairwise.nil

theorem mem_insert {name : String} {value : α} {members : Members α} {member : String × α}
    (there : member ∈ members.insert name value) : member = (name, value) ∨ member ∈ members := by
  induction members with
  | nil => simpa [insert] using there
  | cons first rest ih =>
    obtain ⟨n, v⟩ := first
    rw [insert] at there
    split at there
    · rcases List.mem_cons.mp there with h | h
      · exact .inl h
      · exact .inr (List.mem_cons_of_mem _ h)
    · split at there
      · exact List.mem_cons.mp there
      · rcases List.mem_cons.mp there with h | h
        · exact .inr (h ▸ List.mem_cons_self)
        · rcases ih h with h | h
          · exact .inl h
          · exact .inr (List.mem_cons_of_mem _ h)

theorem Sorted.insert {members : Members α} (sorted : Sorted members) (name : String) (value : α) :
    Sorted (members.insert name value) := by
  induction members with
  | nil => simp [Members.insert, Sorted]
  | cons first rest ih =>
    obtain ⟨n, v⟩ := first
    obtain ⟨above, tail⟩ := List.pairwise_cons.mp sorted
    rw [Members.insert]
    split
    · rename_i same
      subst same
      exact List.pairwise_cons.mpr ⟨above, tail⟩
    · split
      · rename_i below
        refine List.pairwise_cons.mpr ⟨fun member there => ?_, List.pairwise_cons.mpr ⟨above, tail⟩⟩
        rcases List.mem_cons.mp there with rfl | there
        · exact below
        · exact below.trans (above member there)
      · rename_i other notBelow
        refine List.pairwise_cons.mpr ⟨fun member there => ?_, ih tail⟩
        rcases mem_insert there with rfl | there
        · exact lt_of_le_of_ne (not_lt.mp notBelow) (Ne.symm other)
        · exact above member there

/-- A name above all others is added at the end. -/
theorem insert_eq_append {members : Members α} {name : String}
    (above : ∀ member ∈ members, member.1 < name) (value : α) :
    members.insert name value = members ++ [(name, value)] := by
  induction members with
  | nil => rfl
  | cons first rest ih =>
    obtain ⟨n, v⟩ := first
    obtain ⟨below, above⟩ := List.forall_mem_cons.mp above
    rw [insert, if_neg below.ne', if_neg below.asymm, ih above, List.cons_append]

theorem Sorted.nodup {members : Members α} (sorted : Sorted members) :
    (members.map Prod.fst).Nodup := by
  rw [List.nodup_iff_pairwise_ne, List.pairwise_map]
  exact sorted.imp fun below => below.ne

end Members

/-- A value with at most `room` levels of brackets, the members of its objects by rising name. -/
inductive Json.Fits : Nat → Json → Prop where
  | null {room : Nat} : Fits room .null
  | bool {room : Nat} (value : Bool) : Fits room (.bool value)
  | number {room : Nat} (value : Json.Number) : Fits room (.number value)
  | string {room : Nat} (text : String) : Fits room (.string text)
  | array {room : Nat} {items : List Json} (each : ∀ item ∈ items, Fits room item) :
    Fits (room + 1) (.array items)
  | object {room : Nat} {members : Members Json} (each : ∀ member ∈ members, Fits room member.2)
      (sorted : members.Sorted) : Fits (room + 1) (.object members)

namespace Json.Reader

variable {α β σ : Type}

/-- Whatever value the reader gives has the property. -/
def Ensures (r : Reader α) (P : α → Prop) : Prop :=
  ∀ cur x cur', r cur = .ok (x, cur') → P x

/-- A run of two readers in a row is a run of each. -/
theorem exists_of_bind {r : Reader α} {f : α → Reader β} {cur cur' : Cursor} {y : β}
    (run : (r >>= f) cur = .ok (y, cur')) :
    ∃ x mid, r cur = .ok (x, mid) ∧ f x mid = .ok (y, cur') := by
  rw [bind_apply] at run
  cases first : r cur with
  | error e =>
    rw [first] at run
    cases run
  | ok p =>
    rw [first] at run
    exact ⟨p.1, p.2, rfl, run⟩

theorem Ensures.bind {r : Reader α} {f : α → Reader β} {P : α → Prop} {Q : β → Prop}
    (h : Ensures r P) (next : ∀ x, P x → Ensures (f x) Q) : Ensures (r >>= f) Q := by
  intro cur y cur' run
  obtain ⟨x, mid, first, second⟩ := exists_of_bind run
  exact next x (h cur x mid first) mid y cur' second

theorem Ensures.pure {x : α} {P : α → Prop} (h : P x) : Ensures (Pure.pure x) P := by
  intro cur y cur' run
  obtain ⟨rfl, -⟩ := Prod.mk.inj (Except.ok.inj run)
  exact h

theorem Ensures.trivial (r : Reader α) : Ensures r fun _ => True :=
  fun _ _ _ _ => True.intro

/-- The value of the last reader is the one that counts. -/
theorem Ensures.last {r : Reader α} {f : α → Reader β} {Q : β → Prop}
    (next : ∀ x, Ensures (f x) Q) : Ensures (r >>= f) Q :=
  (Ensures.trivial r).bind fun x _ => next x

theorem Ensures.failHere (cause : Cause) (P : α → Prop) : Ensures (Reader.failHere cause) P :=
  fun _ _ _ run => nomatch run

theorem Ensures.failAhead (cause : Cause) (P : α → Prop) : Ensures (Reader.failAhead cause) P :=
  fun _ _ _ run => nomatch run

theorem Ensures.failUnplaced (cause : Cause) (P : α → Prop) :
    Ensures (Reader.failUnplaced cause) P := fun _ _ _ run => nomatch run

theorem Ensures.enclose {r : Reader α} {P : α → Prop} (bracket : Bracket) (h : Ensures r P) :
    Ensures (bracket.enclose r) P := by
  intro cur x cur' run
  unfold Bracket.enclose at run
  split at run
  · rename_i v mid first
    cases closed : bracket.close mid with
    | error e =>
      rw [closed] at run
      cases run
    | ok p =>
      rw [closed] at run
      obtain ⟨rfl, -⟩ := Prod.mk.inj (Except.ok.inj run)
      exact h cur _ mid first
  · cases run
  · cases run

/-- Only with a level left is a bracket opened. -/
theorem Ensures.enter (room : Nat) : Ensures (enter room) fun inside => room = inside + 1 := by
  cases room with
  | zero => exact Ensures.failAhead _ _
  | succ room => exact Ensures.last fun _ => Ensures.pure rfl

mutual

theorem Ensures.valueWith : (fuel room : Nat) → Ensures (valueWith fuel room) (Fits room)
  | 0, _ => Ensures.failHere _ _
  | fuel + 1, room => by
    refine Ensures.last fun c? => ?_
    split
    · exact Ensures.failHere _ _
    · exact Ensures.last fun _ => Ensures.last fun _ => Ensures.pure .null
    · exact Ensures.last fun _ => Ensures.last fun _ => Ensures.pure (.bool true)
    · exact Ensures.last fun _ => Ensures.last fun _ => Ensures.pure (.bool false)
    · exact Ensures.last fun _ => Ensures.last fun text => Ensures.pure (.string text)
    · exact Ensures.last fun _ => Ensures.last fun n => Ensures.pure (.number n)
    · refine (Ensures.enter room).bind fun inside eq => ?_
      subst eq
      exact (Ensures.enclose .array (Ensures.itemsWith fuel inside true)).bind fun items each =>
        Ensures.pure (.array each)
    · refine (Ensures.enter room).bind fun inside eq => ?_
      subst eq
      refine (Ensures.enclose .object (Ensures.membersWith fuel inside true [] ?_ .nil)).bind
        fun members ⟨each, sorted⟩ => Ensures.pure (.object each sorted)
      simp
    · split
      · exact Ensures.last fun n => Ensures.pure (.number n)
      · exact Ensures.failAhead _ _

theorem Ensures.itemsWith : (fuel room : Nat) → (first : Bool) →
    Ensures (itemsWith fuel room first) fun items => ∀ item ∈ items, Fits room item
  | 0, _, _ => Ensures.failHere _ _
  | fuel + 1, room, first => by
    refine Ensures.last fun more => ?_
    cases more with
    | false => exact Ensures.pure (by simp)
    | true =>
      refine (Ensures.valueWith fuel room).bind fun item fits => ?_
      refine (Ensures.itemsWith fuel room false).bind fun items each => Ensures.pure ?_
      exact List.forall_mem_cons.mpr ⟨fits, each⟩

theorem Ensures.membersWith : (fuel room : Nat) → (first : Bool) → (members : Members Json) →
    (∀ member ∈ members, Fits room member.2) → members.Sorted →
    Ensures (membersWith fuel room first members) fun members =>
      (∀ member ∈ members, Fits room member.2) ∧ members.Sorted
  | 0, _, _, _, _, _ => Ensures.failHere _ _
  | fuel + 1, room, first, members, each, sorted => by
    refine Ensures.last fun more => ?_
    cases more with
    | false => exact Ensures.pure ⟨each, sorted⟩
    | true =>
      refine Ensures.last fun _ => Ensures.last fun name => Ensures.last fun _ => ?_
      refine (Ensures.valueWith fuel room).bind fun value fits => ?_
      refine Ensures.membersWith fuel room false _ (fun member there => ?_) (sorted.insert _ _)
      rcases Members.mem_insert there with rfl | there
      · exact fits
      · exact each member there

end

/-- A value that has been read fits. -/
theorem Ensures.value (room : Nat) : Ensures (value room) (Fits room) :=
  Ensures.last fun _ => Ensures.valueWith _ room

/-! ### Values of a known type -/

theorem Ensures.optional {r : Reader α} {P : α → Prop} (h : Ensures r P) :
    Ensures (optional r) fun o => ∀ x ∈ o, P x := by
  refine Ensures.last fun c? => ?_
  split
  · exact Ensures.last fun _ => Ensures.last fun _ => Ensures.pure (by simp)
  · exact h.bind fun x holds => Ensures.pure (by simpa using holds)

/-- Only a value that begins with an `n` is null. -/
theorem valueWith_ne_null {fuel room : Nat} {cur cur' : Cursor} {v : Json}
    (head : cur.skipSpaces.rest.head? ≠ some 'n') (run : valueWith fuel room cur = .ok (v, cur')) :
    v ≠ .null := by
  cases fuel with
  | zero => cases run
  | succ fuel =>
    have other {r : Reader Json} (h : Ensures r fun v => v ≠ .null)
        (run : r cur.skipSpaces = .ok (v, cur')) : v ≠ .null := h _ _ _ run
    rw [valueWith, skipSpaces_bind] at run
    generalize cur.skipSpaces.rest.head? = c? at head run
    split at run
    · cases run
    · exact absurd rfl head
    · exact other (Ensures.last fun _ => Ensures.last fun _ => Ensures.pure (by simp)) run
    · exact other (Ensures.last fun _ => Ensures.last fun _ => Ensures.pure (by simp)) run
    · exact other (Ensures.last fun _ => Ensures.last fun _ => Ensures.pure (by simp)) run
    · exact other (Ensures.last fun _ => Ensures.last fun _ => Ensures.pure (by simp)) run
    · exact other (Ensures.last fun _ => Ensures.last fun _ => Ensures.pure (by simp)) run
    · exact other (Ensures.last fun _ => Ensures.last fun _ => Ensures.pure (by simp)) run
    · split at run
      · exact other (Ensures.last fun _ => Ensures.pure (by simp)) run
      · cases run

/-- An optional value is not null. -/
theorem Ensures.optional_value (room : Nat) :
    Ensures (Reader.optional (Reader.value room)) fun o =>
      ∀ v ∈ o, v ≠ Json.null ∧ Fits room v := by
  intro cur o cur' run v there
  refine ⟨?_, Ensures.optional (Ensures.value room) cur o cur' run v there⟩
  rw [Reader.optional, skipSpaces_bind] at run
  generalize head : cur.skipSpaces.rest.head? = c? at run
  split at run
  · have gone : Ensures (Reader.advance >>= fun _ => Reader.word ['u', 'l', 'l'] >>= fun _ =>
        Pure.pure (none : Option Json)) fun o => o = none :=
      Ensures.last fun _ => Ensures.last fun _ => Ensures.pure rfl
    rw [gone _ _ _ run] at there
    exact absurd there (by simp)
  · rename_i other
    obtain ⟨x, mid, first, second⟩ := exists_of_bind run
    obtain ⟨rfl, -⟩ := Prod.mk.inj (Except.ok.inj second)
    obtain rfl := Option.some.inj there
    refine valueWith_ne_null (fun isN => other ?_)
      (show Reader.valueWith (2 * cur.skipSpaces.bound + 2) room cur.skipSpaces = _ from first)
    rwa [Cursor.skipSpaces_rest, Cursor.skipSpaces_rest, List.dropWhile_idempotent,
      ← Cursor.skipSpaces_rest, head] at isN

theorem Ensures.foldMembersWith {take : String → σ → Reader σ} {I : σ → Prop}
    (step : ∀ name state, I state → Ensures (take name state) I) (fuel : Nat) (first : Bool)
    {state : σ} (start : I state) : Ensures (foldMembersWith take fuel first state) I := by
  induction fuel generalizing first state with
  | zero => exact Ensures.failHere _ _
  | succ fuel ih =>
    refine Ensures.last fun more => ?_
    cases more with
    | false => exact Ensures.pure start
    | true =>
      refine Ensures.last fun _ => Ensures.last fun name => ?_
      exact (step name state start).bind fun state holds => ih false holds

/-- What every member taken preserves holds of the whole object. -/
theorem Ensures.foldMembers {take : String → σ → Reader σ} {I : σ → Prop}
    (step : ∀ name state, I state → Ensures (take name state) I) {state : σ} (start : I state) :
    Ensures (foldMembers take state) I :=
  Ensures.last fun _ => Ensures.foldMembersWith step _ true start

theorem Ensures.eachItemWith {r : Reader α} {P : α → Prop} (h : Ensures r P) (fuel : Nat)
    (first : Bool) : Ensures (eachItemWith r fuel first) fun items => ∀ item ∈ items, P item := by
  induction fuel generalizing first with
  | zero => exact Ensures.failHere _ _
  | succ fuel ih =>
    refine Ensures.last fun more => ?_
    cases more with
    | false => exact Ensures.pure (by simp)
    | true =>
      refine h.bind fun item holds => (ih false).bind fun items each => Ensures.pure ?_
      exact List.forall_mem_cons.mpr ⟨holds, each⟩

theorem Ensures.wrongType (expected : Expected) (P : α → Prop) :
    Ensures (wrongType expected) P := by
  refine Ensures.last fun c? => ?_
  split
  · exact Ensures.last fun _ => Ensures.last fun _ => Ensures.failHere _ _
  · exact Ensures.last fun _ => Ensures.last fun _ => Ensures.failHere _ _
  · exact Ensures.last fun _ => Ensures.last fun _ => Ensures.failHere _ _
  · exact Ensures.last fun _ => Ensures.last fun _ => Ensures.failHere _ _
  · exact Ensures.last fun _ => Ensures.last fun _ => Ensures.failHere _ _
  · exact Ensures.failHere _ _
  · exact Ensures.failHere _ _
  · split
    · exact Ensures.last fun _ => Ensures.failHere _ _
    · exact Ensures.failAhead _ _
  · exact Ensures.failAhead _ _

theorem Ensures.list {reader : Nat → Reader α} {room : Nat} {P : α → Prop}
    (h : ∀ inside, room = inside + 1 → Ensures (reader inside) P) :
    Ensures (list reader room) fun items => ∀ item ∈ items, P item := by
  refine Ensures.last fun c? => ?_
  split
  · exact Ensures.failHere _ _
  · refine (Ensures.enter room).bind fun inside eq => Ensures.last fun fuel => ?_
    exact Ensures.enclose .array (Ensures.eachItemWith (h inside eq) _ true)
  · exact Ensures.wrongType _ _

/-- A map has each name once, and by rising name. -/
theorem Ensures.map (r : Reader α) (room : Nat) : Ensures (map r room) Members.Sorted := by
  refine Ensures.last fun c? => ?_
  split
  · exact Ensures.failHere _ _
  · refine Ensures.last fun _ => Ensures.enclose .object (Ensures.foldMembers ?_ .nil)
    intro name members sorted
    exact Ensures.last fun _ => Ensures.last fun value => Ensures.pure (sorted.insert name value)
  · exact Ensures.wrongType _ _

theorem Ensures.field {r : Reader α} {P : α → Prop} (h : Ensures r P) (name : String)
    (before : Option α) : Ensures (field name before r) fun o => ∀ x ∈ o, P x := by
  unfold Reader.field
  split
  · exact Ensures.failUnplaced _ _
  · exact Ensures.last fun _ => h.bind fun x holds => Ensures.pure (by simpa using holds)

theorem Ensures.nextItem {r : Reader α} {P : α → Prop} (h : Ensures r P) (first : Bool) :
    Ensures (nextItem first r) fun o => ∀ x ∈ o, P x := by
  refine Ensures.last fun more => ?_
  cases more with
  | false => exact Ensures.pure (by simp)
  | true => exact h.bind fun x holds => Ensures.pure (by simpa using holds)

theorem Ensures.record {name : String} {room : Nat} {byName byOrder : Nat → Reader α}
    {P : α → Prop} (named : ∀ inside, room = inside + 1 → Ensures (byName inside) P)
    (ordered : ∀ inside, room = inside + 1 → Ensures (byOrder inside) P) :
    Ensures (record name room byName byOrder) P := by
  refine Ensures.last fun c? => ?_
  split
  · exact Ensures.failHere _ _
  · exact (Ensures.enter room).bind fun inside eq => Ensures.enclose .object (named inside eq)
  · exact (Ensures.enter room).bind fun inside eq => Ensures.enclose .array (ordered inside eq)
  · exact Ensures.wrongType _ _

theorem Ensures.objectRecord {name : String} {room : Nat} {byName : Nat → Reader α}
    {P : α → Prop} (named : ∀ inside, room = inside + 1 → Ensures (byName inside) P) :
    Ensures (objectRecord name room byName) P := by
  refine Ensures.last fun c? => ?_
  split
  · exact Ensures.failHere _ _
  · exact (Ensures.enter room).bind fun inside eq => Ensures.enclose .object (named inside eq)
  · exact Ensures.wrongType _ _

/-- What a reader ensures holds of a whole text that it reads. -/
theorem Ensures.run {r : Reader α} {P : α → Prop} (h : Ensures r P) {text : String} {x : α}
    (run : r.run text = .ok x) : P x := by
  unfold Reader.run at run
  split at run
  · cases run
  · cases run
  · rename_i y cur first
    split at run
    · obtain rfl := Except.ok.inj run
      exact h _ _ _ first
    · cases run

end Json.Reader

end RemoteAttach
