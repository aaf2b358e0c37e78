import RemoteAttach.Proofs.Json.Runs.Value

/-! Readers of values whose type is known, on values that have been written without blanks. -/

namespace RemoteAttach.Json.Reader

variable {α σ : Type}

/-- The reader reads the text of `v` as `x`, whatever stands behind it. -/
def Reads (r : Reader α) (v : Json) (x : α) : Prop :=
  ∀ rest : List Char, Ends rest.head? → Runs r (v.render ++ rest) x rest

theorem Reads.andThen {r : Reader α} {v : Json} {x : α} (h : Reads r v x) (f : α → σ) :
    Reads (r >>= fun x => Pure.pure (f x)) v (f x) := fun rest ends =>
  (h rest ends).andThen f

theorem Reads.value {room : Nat} {v : Json} (fits : Fits room v) (whole : v.isWhole = true) :
    Reads (value room) v v := fun _ ends =>
  fits.runs_value whole ends

theorem Reads.string (s : String) : Reads string (.string s) s := by
  intro rest _
  have chars := Runs.literal s rest
  simp only [render, Json.literal, List.cons_append, List.append_assoc, List.nil_append]
  exact Runs.past_spaces (by simp [Cursor.isSpace]) ((Runs.advance _ _).bind chars)

theorem Reads.boolean (b : Bool) : Reads boolean (.bool b) b := by
  intro rest _
  cases b with
  | true =>
    exact Runs.past_spaces (by simp [render, Cursor.isSpace])
      ((Runs.advance _ _).bind ((Runs.word ['r', 'u', 'e'] rest).bind (Runs.pure _ _)))
  | false =>
    exact Runs.past_spaces (by simp [render, Cursor.isSpace])
      ((Runs.advance _ _).bind ((Runs.word ['a', 'l', 's', 'e'] rest).bind (Runs.pure _ _)))

/-- A value that is not null is there. -/
theorem Reads.optional {r : Reader α} {v : Json} {x : α} (h : Reads r v x)
    (written : ∀ n, v = .number n → n.isWhole = true) (some_ : v ≠ .null) :
    Reads (optional r) v (some x) := by
  intro rest ends
  obtain ⟨c, more, eq, begins, null⟩ := exists_render_eq written
  have value := (h rest ends).andThen some
  rw [eq, List.cons_append] at value ⊢
  refine Runs.past_spaces (by simpa using begins.1) ?_
  rw [List.head?_cons]
  split
  · exact absurd (null (Option.some.inj ‹_›)) some_
  · exact value

/-! ### Objects -/

/-- Taking some members one after the other leads from one state to another. -/
inductive Takes (take : String → σ → Reader σ) : σ → List (String × Json) → σ → Prop where
  | nil (state : σ) : Takes take state [] state
  | cons {state next last : σ} {member : String × Json} {members : List (String × Json)}
      (one : ∀ rest : List Char, Ends rest.head? →
        Runs (take member.1 state) (':' :: (member.2.render ++ rest)) next rest)
      (more : Takes take next members last) : Takes take state (member :: members) last

theorem Takes.append {take : String → σ → Reader σ} {first mid last : σ}
    {before after : List (String × Json)} (h1 : Takes take first before mid)
    (h2 : Takes take mid after last) : Takes take first (before ++ after) last := by
  induction h1 with
  | nil => exact h2
  | cons one more ih => exact .cons one (ih h2)

theorem length_le_membersTail (members : List (String × Json)) :
    members.length ≤ (membersTail members).length := by
  induction members with
  | nil => simp
  | cons member members ih =>
    simp only [membersTail, List.flatMap_cons, List.length_append, List.length_cons] at ih ⊢
    omega

theorem Runs.foldMembersWith_tail {take : String → σ → Reader σ} {state last : σ}
    {members : List (String × Json)} (takes : Takes take state members last) (fuel : Nat)
    (enough : members.length < fuel) (rest : List Char) :
    Runs (foldMembersWith take fuel false state) (membersTail members ++ '\x7d' :: rest) last
      ('\x7d' :: rest) := by
  induction takes generalizing fuel with
  | nil =>
    obtain ⟨fuel, rfl⟩ : ∃ m, fuel = m + 1 := ⟨fuel - 1, by omega⟩
    exact (Runs.hasMember_end false rest).bind (Runs.pure _ _)
  | cons one more ih =>
    rename_i state next last member members
    obtain ⟨fuel, rfl⟩ : ∃ m, fuel = m + 1 := ⟨fuel - 1, by omega⟩
    have step := (one _ (ends_membersTail members rest)).bind
      (ih fuel (by simpa using enough))
    simp only [membersTail, List.flatMap_cons, List.cons_append]
    rw [List.append_assoc]
    exact (Runs.hasMember_next _).bind (Runs.member member step)

/-- The members of a written object are taken one after the other. -/
theorem Runs.foldMembers {take : String → σ → Reader σ} {state last : σ}
    {members : List (String × Json)} (takes : Takes take state members last) (rest : List Char) :
    Runs (foldMembers take state) (renderMembers members ++ '\x7d' :: rest) last
      ('\x7d' :: rest) := by
  refine Runs.bound fun bound enough => ?_
  cases takes with
  | nil => exact (Runs.hasMember_end true rest).bind (Runs.pure _ _)
  | cons one more =>
    rename_i next member members
    have few := length_le_membersTail members
    rw [renderMembers_cons] at enough ⊢
    simp only [List.length_append, List.length_cons] at enough
    have step := (one _ (ends_membersTail members rest)).bind
      (Runs.foldMembersWith_tail more bound (by omega) rest)
    rw [List.append_assoc]
    exact (Runs.hasMember_first _).bind (Runs.member member step)

theorem Reads.optional_string (s : String) :
    Reads (Reader.optional Reader.string) (.string s) (some s) :=
  (Reads.string s).optional nofun nofun

theorem Reads.optional_boolean (b : Bool) :
    Reads (Reader.optional Reader.boolean) (.bool b) (some b) :=
  (Reads.boolean b).optional nofun nofun

theorem Runs.field {r : Reader α} {v : Json} {x : α} (h : Reads r v x) (name : String)
    {rest : List Char} (ends : Ends rest.head?) :
    Runs (field name none r) (':' :: (v.render ++ rest)) (some x) rest :=
  (Runs.colon _).bind ((h rest ends).andThen some)

/-- The fields that have been taken make what is read. -/
theorem Runs.fields {take : String → σ → Reader σ} {state last : σ} {finish : σ → α} {x : α}
    {members : List (String × Json)} (takes : Takes take state members last)
    (finished : finish last = x) (rest : List Char) :
    Runs (Reader.foldMembers take state >>= fun d => Pure.pure (finish d))
      (renderMembers members ++ '\x7d' :: rest) x ('\x7d' :: rest) :=
  finished ▸ (Runs.foldMembers takes rest).andThen finish

/-- A field that has not been read before is set to what its member is read as. -/
theorem Takes.member {γ : Type} {take : String → σ → Reader σ} {r : Reader γ} {v : Json} {x : γ}
    (set : Option γ → σ → σ) (name : String) (state : σ)
    (takes : take name state = do
      let x ← Reader.field name none r
      Pure.pure (set x state))
    (reads : Reads r v x) : Takes take state [(name, v)] (set (some x) state) := by
  refine .cons (fun rest ends => ?_) (.nil _)
  rw [takes]
  exact (Runs.field reads name ends).andThen fun x => set x state

/-- A record is read in the form of an object. -/
theorem Reads.record {name : String} {room : Nat} {byName byOrder : Nat → Reader α} {x : α}
    {members : List (String × Json)}
    (named : ∀ rest, Runs (byName room) (renderMembers members ++ '\x7d' :: rest) x
      ('\x7d' :: rest)) :
    Reads (record name (room + 1) byName byOrder) (.object members) x := by
  intro rest _
  simp only [render, List.cons_append, List.append_assoc, List.nil_append]
  exact Runs.past_spaces (by simp [Cursor.isSpace])
    ((Runs.enter room _ _).bind (Runs.enclose .object (named rest)))

theorem Reads.objectRecord {name : String} {room : Nat} {byName : Nat → Reader α} {x : α}
    {members : List (String × Json)}
    (named : ∀ rest, Runs (byName room) (renderMembers members ++ '\x7d' :: rest) x
      ('\x7d' :: rest)) :
    Reads (objectRecord name (room + 1) byName) (.object members) x := by
  intro rest _
  simp only [render, List.cons_append, List.append_assoc, List.nil_append]
  exact Runs.past_spaces (by simp [Cursor.isSpace])
    ((Runs.enter room _ _).bind (Runs.enclose .object (named rest)))

/-- Members that are inserted into a map one after the other are there at last, if their names
rise. -/
theorem Takes.insert {γ : Type} {take : String → σ → Reader σ} {r : Reader γ} (toJson : γ → Json)
    (set : Members γ → σ) (before after : Members γ) (sorted : Members.Sorted (before ++ after))
    (takes : ∀ member ∈ after, ∀ members : Members γ, take member.1 (set members) = do
      Reader.colon
      let value ← r
      Pure.pure (set (members.insert member.1 value)))
    (reads : ∀ member ∈ after, Reads r (toJson member.2) member.2) :
    Takes take (set before) (after.map fun member => (member.1, toJson member.2))
      (set (before ++ after)) := by
  induction after generalizing before with
  | nil => simpa using Takes.nil (set before)
  | cons member after ih =>
    obtain ⟨takes_member, takes⟩ := List.forall_mem_cons.mp takes
    obtain ⟨reads_member, reads⟩ := List.forall_mem_cons.mp reads
    have above : ∀ m ∈ before, m.1 < member.1 := fun m there =>
      (List.pairwise_append.mp sorted).2.2 m there member List.mem_cons_self
    have further := ih (before ++ [member]) (by simpa using sorted) takes reads
    rw [List.append_assoc, List.cons_append, List.nil_append] at further
    refine .cons (fun rest ends => ?_) further
    have value := (reads_member rest ends).andThen fun value => set (before.insert member.1 value)
    rw [Members.insert_eq_append above] at value
    rw [takes_member]
    exact (Runs.colon _).bind value

/-- A map is read as it was if its names rise. -/
theorem Reads.map {r : Reader α} {members : Members α} (toJson : α → Json)
    (each : ∀ member ∈ members, Reads r (toJson member.2) member.2) (sorted : members.Sorted)
    (room : Nat) :
    Reads (map r (room + 1)) (.object (members.map fun member => (member.1, toJson member.2)))
      members := by
  intro rest _
  have takes : Takes (fun name members => do
        Reader.colon
        let value ← r
        Pure.pure (Members.insert name value members))
      [] (members.map fun member => (member.1, toJson member.2)) members :=
    Takes.insert toJson id [] members sorted (fun _ _ _ => rfl) each
  have whole := Runs.foldMembers takes rest
  simp only [render, List.cons_append, List.append_assoc, List.nil_append] at whole ⊢
  exact Runs.past_spaces (by simp [Cursor.isSpace])
    ((Runs.enter room _ _).bind (Runs.enclose .object whole))

/-! ### Arrays -/

theorem Runs.eachItemWith_tail {r : Reader α} {items : List α} (toJson : α → Json)
    (each : ∀ item ∈ items, Reads r (toJson item) item ∧
      ∀ n, toJson item = .number n → n.isWhole = true) (fuel : Nat) (enough : items.length < fuel)
    (rest : List Char) :
    Runs (eachItemWith r fuel false) (itemsTail (items.map toJson) ++ ']' :: rest) items
      (']' :: rest) := by
  induction items generalizing fuel with
  | nil =>
    obtain ⟨fuel, rfl⟩ : ∃ m, fuel = m + 1 := ⟨fuel - 1, by omega⟩
    exact (Runs.hasItem_end false rest).bind (Runs.pure _ _)
  | cons item items ih =>
    obtain ⟨fuel, rfl⟩ : ∃ m, fuel = m + 1 := ⟨fuel - 1, by omega⟩
    obtain ⟨⟨reads, written⟩, each⟩ := List.forall_mem_cons.mp each
    obtain ⟨c, more, eq, begins, -⟩ := exists_render_eq written
    have value := reads _ (ends_itemsTail (items.map toJson) rest)
    have further := ih each fuel (by simpa using enough)
    simp only [List.map_cons, itemsTail, List.flatMap_cons, List.cons_append]
    rw [List.append_assoc]
    rw [eq, List.cons_append] at value ⊢
    exact (Runs.hasItem_next begins _).bind (value.bind (further.andThen _))

theorem length_le_itemsTail (items : List Json) : items.length ≤ (itemsTail items).length := by
  induction items with
  | nil => simp
  | cons item items ih =>
    simp only [itemsTail, List.flatMap_cons, List.length_append, List.length_cons] at ih ⊢
    omega

/-- A list is read as it was. -/
theorem Reads.list {reader : Nat → Reader α} {room : Nat} {items : List α} (toJson : α → Json)
    (each : ∀ item ∈ items, Reads (reader room) (toJson item) item ∧
      ∀ n, toJson item = .number n → n.isWhole = true) :
    Reads (list reader (room + 1)) (.array (items.map toJson)) items := by
  intro rest _
  have whole : Runs (do
      let fuel ← Reader.bound
      Bracket.array.enclose (eachItemWith (reader room) (fuel + 1) true))
      (renderItems (items.map toJson) ++ ']' :: rest) items rest := by
    refine Runs.bound fun bound enough => Runs.enclose .array ?_
    cases items with
    | nil => exact (Runs.hasItem_end true rest).bind (Runs.pure _ _)
    | cons item items =>
      obtain ⟨⟨reads, written⟩, each⟩ := List.forall_mem_cons.mp each
      obtain ⟨c, more, eq, begins, -⟩ := exists_render_eq written
      have few := length_le_itemsTail (items.map toJson)
      rw [List.length_map] at few
      rw [List.map_cons, renderItems_cons] at enough ⊢
      simp only [List.length_append, List.length_cons] at enough
      have value := reads _ (ends_itemsTail (items.map toJson) rest)
      have further := Runs.eachItemWith_tail toJson each bound (by omega) rest
      rw [List.append_assoc]
      rw [eq, List.cons_append] at value ⊢
      exact (Runs.hasItem_first begins _).bind (value.bind (further.andThen _))
  simp only [render, List.cons_append, List.append_assoc, List.nil_append]
  exact Runs.past_spaces (by simp [Cursor.isSpace]) ((Runs.enter room _ _).bind whole)

end RemoteAttach.Json.Reader
