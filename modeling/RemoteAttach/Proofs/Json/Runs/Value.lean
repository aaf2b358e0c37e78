import RemoteAttach.Proofs.Json.Ensures
import RemoteAttach.Proofs.Json.Runs.Scalar

/-! Values that have been written without blanks are read as what they were, if their numbers are
whole and they fit in the levels that are left. -/

namespace RemoteAttach.Json

/-- A whole number of 64 bits, signed or not. The zero with a minus sign is one too, and is kept as
a floating-point number. -/
def Number.isWhole : Number → Bool
  | .integer value => -2 ^ 63 ≤ value && value < 2 ^ 64
  | .decimal value => value == ⟨true, .zero⟩

mutual

/-- All numbers of a value are whole. -/
def isWhole : Json → Bool
  | null | bool _ | string _ => true
  | number n => n.isWhole
  | array items => itemsWhole items
  | object members => membersWhole members

/-- All numbers of some items are whole. -/
def itemsWhole : List Json → Bool
  | [] => true
  | item :: rest => item.isWhole && itemsWhole rest

/-- All numbers of some members are whole. -/
def membersWhole : List (String × Json) → Bool
  | [] => true
  | (_, value) :: rest => value.isWhole && membersWhole rest

end

theorem itemsWhole_iff {items : List Json} :
    itemsWhole items = true ↔ ∀ item ∈ items, item.isWhole = true := by
  induction items with
  | nil => simp [itemsWhole]
  | cons item items ih => simp [itemsWhole, ih]

theorem membersWhole_iff {members : List (String × Json)} :
    membersWhole members = true ↔ ∀ member ∈ members, member.2.isWhole = true := by
  induction members with
  | nil => simp [membersWhole]
  | cons member members ih => simp [membersWhole, ih]

theorem isWhole_of_eq_number {v : Json} (whole : v.isWhole = true) (n : Number)
    (same : v = .number n) : n.isWhole = true := by
  subst same
  exact whole

/-! ### Texts -/

theorem Number.text_integer (value : Int) :
    (Number.integer value).text =
      (if value < 0 then ['-'] else []) ++ Nat.toDigits 10 value.natAbs := by
  cases value with
  | ofNat n =>
    rw [if_neg (by simp)]
    exact Nat.toList_repr
  | negSucc n =>
    rw [if_pos (Int.negSucc_lt_zero n)]
    show ("-" ++ (n + 1).repr).toList = _
    rw [String.toList_append, Nat.toList_repr]
    rfl

theorem Number.text_negative_zero :
    (Number.decimal ⟨true, .zero⟩).text = ['-', '0', '.', '0'] := rfl

/-- The text of a member. -/
def memberText (member : String × Json) : List Char :=
  literal member.1 ++ ':' :: member.2.render

/-- The texts of items, each after a comma. -/
def itemsTail (items : List Json) : List Char :=
  items.flatMap fun item => ',' :: item.render

/-- The texts of members, each after a comma. -/
def membersTail (members : List (String × Json)) : List Char :=
  members.flatMap fun member => ',' :: memberText member

theorem renderItems_cons (item : Json) (rest : List Json) :
    renderItems (item :: rest) = item.render ++ itemsTail rest := by
  induction rest generalizing item with
  | nil => simp [renderItems, itemsTail]
  | cons next rest ih => simp [renderItems, itemsTail, ih]

theorem renderMembers_cons (member : String × Json) (rest : List (String × Json)) :
    renderMembers (member :: rest) = memberText member ++ membersTail rest := by
  induction rest generalizing member with
  | nil => simp [renderMembers, membersTail, memberText]
  | cons next rest ih => simp [renderMembers, membersTail, memberText, ih]

namespace Reader

/-- The first character of a value. Only null begins with an `n`. -/
theorem exists_render_eq {v : Json} (written : ∀ n, v = .number n → n.isWhole = true) :
    ∃ c more, v.render = c :: more ∧ Begins c ∧ (c = 'n' → v = .null) := by
  have other {c : Char} (begins : Cursor.isSpace c = false ∧ c ≠ ']' ∧ c ≠ 'n') (more : List Char) :
      ∃ d rest, c :: more = d :: rest ∧ Begins d ∧ (d = 'n' → v = .null) :=
    ⟨c, more, rfl, ⟨begins.1, begins.2.1⟩, fun same => absurd same begins.2.2⟩
  cases v with
  | null => exact ⟨'n', _, rfl, ⟨by decide, by decide⟩, fun _ => rfl⟩
  | bool value =>
    cases value with
    | true => exact other (by decide) _
    | false => exact other (by decide) _
  | string text => exact other (by decide) _
  | array items => exact other (by decide) _
  | object members => exact other (by decide) _
  | number n =>
    cases n with
    | decimal value =>
      obtain rfl : value = ⟨true, .zero⟩ := by simpa [Number.isWhole] using written _ rfl
      exact other (by decide) _
    | integer value =>
      rw [render, Number.text_integer]
      split
      · exact other (by decide) _
      · obtain ⟨d, ds, eq, digit⟩ := exists_toDigits_eq value.natAbs
        have begins : Cursor.isSpace d = false ∧ d ≠ ']' ∧ d ≠ 'n' :=
          of_isDigit digit (by decide)
        rw [eq]
        exact other begins ds

/-- A whole number is read as it was written, where nothing continues it. -/
theorem Runs.integer {value : Int} (whole : (Number.integer value).isWhole = true)
    {rest : List Char} (ends : Ends rest.head?) (fuel room : Nat) :
    Runs (valueWith (fuel + 1) room) ((Number.integer value).text ++ rest)
      (.number (.integer value)) rest := by
  simp only [Number.isWhole, Bool.and_eq_true, decide_eq_true_eq] at whole
  have size : UInt64.size = 2 ^ 64 := rfl
  rw [Number.text_integer]
  split
  · rename_i negative
    have digits := Runs.number true value.natAbs ends (by omega) fun _ => ⟨by omega, by omega⟩
    have same : (if true = true then -(value.natAbs : Int) else value.natAbs) = value := by
      rw [if_pos rfl]; omega
    rw [same] at digits
    exact Runs.past_spaces (by simp [Cursor.isSpace])
      ((Runs.advance _ _).bind (digits.andThen Json.number))
  · rename_i nonnegative
    have digits := Runs.number false value.natAbs ends (by omega)
      fun negative => absurd negative Bool.false_ne_true
    have same : (if false = true then -(value.natAbs : Int) else value.natAbs) = value := by
      rw [if_neg (by decide)]; omega
    rw [same] at digits
    obtain ⟨d, ds, eq, digit⟩ := exists_toDigits_eq value.natAbs
    rw [eq] at digits ⊢
    have h := mem_of_isDigit digit
    simp only [List.mem_cons, List.not_mem_nil, or_false] at h
    rcases h with rfl | rfl | rfl | rfl | rfl | rfl | rfl | rfl | rfl | rfl <;>
      exact Runs.past_spaces (by simp [Cursor.isSpace]) (digits.andThen Json.number)

/-- What follows an item or a member. -/
theorem ends_of_mark {c : Char} (mark : c = ',' ∨ c = ']' ∨ c = '\x7d') : Ends (some c) := by
  rintro d same
  obtain rfl := Option.some.inj same
  rcases mark with rfl | rfl | rfl <;> decide

theorem ends_itemsTail (items : List Json) (rest : List Char) :
    Ends (itemsTail items ++ ']' :: rest).head? := by
  cases items with
  | nil => exact ends_of_mark (.inr (.inl rfl))
  | cons item items => exact ends_of_mark (.inl rfl)

theorem ends_membersTail (members : List (String × Json)) (rest : List Char) :
    Ends (membersTail members ++ '\x7d' :: rest).head? := by
  cases members with
  | nil => exact ends_of_mark (.inr (.inr rfl))
  | cons member members => exact ends_of_mark (.inl rfl)

/-- A value is read as what it was with `room` levels left, whatever stands behind it. -/
def Legible (room : Nat) (v : Json) : Prop :=
  ∀ (fuel : Nat) (rest : List Char), 2 * v.render.length ≤ fuel → Ends rest.head? →
    Runs (valueWith fuel room) (v.render ++ rest) v rest

theorem Runs.itemsWith_tail {room : Nat} {items : List Json}
    (each : ∀ item ∈ items, item.isWhole = true ∧ Legible room item) (fuel : Nat)
    (enough : 2 * (itemsTail items).length < fuel) (rest : List Char) :
    Runs (itemsWith fuel room false) (itemsTail items ++ ']' :: rest) items (']' :: rest) := by
  induction items generalizing fuel with
  | nil =>
    obtain ⟨fuel, rfl⟩ : ∃ m, fuel = m + 1 := ⟨fuel - 1, by omega⟩
    exact (Runs.hasItem_end false rest).bind (Runs.pure _ _)
  | cons item items ih =>
    obtain ⟨fuel, rfl⟩ : ∃ m, fuel = m + 1 := ⟨fuel - 1, by omega⟩
    obtain ⟨⟨whole, legible⟩, each⟩ := List.forall_mem_cons.mp each
    obtain ⟨c, more, eq, begins, -⟩ := exists_render_eq (isWhole_of_eq_number whole)
    simp only [itemsTail, List.flatMap_cons, List.cons_append, List.length_cons,
      List.length_append] at enough ⊢
    rw [List.append_assoc]
    have value := legible fuel (itemsTail items ++ ']' :: rest) (by omega) (ends_itemsTail _ _)
    have further := ih each fuel (by simp only [itemsTail]; omega)
    rw [eq, List.cons_append] at value ⊢
    exact (Runs.hasItem_next begins _).bind (value.bind (further.andThen _))

theorem Runs.itemsWith {room : Nat} {items : List Json}
    (each : ∀ item ∈ items, item.isWhole = true ∧ Legible room item) (fuel : Nat)
    (enough : 2 * (renderItems items).length < fuel) (rest : List Char) :
    Runs (itemsWith fuel room true) (renderItems items ++ ']' :: rest) items (']' :: rest) := by
  obtain ⟨fuel, rfl⟩ : ∃ m, fuel = m + 1 := ⟨fuel - 1, by omega⟩
  cases items with
  | nil => exact (Runs.hasItem_end true rest).bind (Runs.pure _ _)
  | cons item items =>
    obtain ⟨⟨whole, legible⟩, each⟩ := List.forall_mem_cons.mp each
    obtain ⟨c, more, eq, begins, -⟩ := exists_render_eq (isWhole_of_eq_number whole)
    rw [renderItems_cons, List.length_append] at enough
    rw [renderItems_cons, List.append_assoc]
    have some_ : 0 < item.render.length := by rw [eq]; simp
    have value := legible fuel (itemsTail items ++ ']' :: rest) (by omega) (ends_itemsTail _ _)
    have further := Runs.itemsWith_tail each fuel (by omega) rest
    rw [eq, List.cons_append] at value ⊢
    exact (Runs.hasItem_first begins _).bind (value.bind (further.andThen _))

/-- A member whose name is ahead is read, and what is made of its name and the text from the colon
on is the state that a loop goes on with. -/
theorem Runs.member {α : Type} {f : String → Reader α} {x : α} {rest after : List Char}
    (member : String × Json)
    (h : Runs (f member.1) (':' :: (member.2.render ++ rest)) x after) :
    Runs (Reader.advance >>= fun _ => Reader.literal >>= f) (memberText member ++ rest) x
      after := by
  have name := Runs.literal member.1 (':' :: (member.2.render ++ rest))
  simp only [memberText, Json.literal, List.cons_append, List.append_assoc, List.nil_append]
  exact (Runs.advance _ _).bind (name.bind h)

/-- A later member is set behind the earlier ones, whose names are below its own. -/
theorem Runs.membersWith_step {room fuel : Nat} (before : Members Json) {members : Members Json}
    {member : String × Json} (sorted : Members.Sorted (before ++ member :: members))
    (legible : Legible room member.2) (enough : 2 * member.2.render.length ≤ fuel)
    {rest after : List Char} (ends : Ends rest.head?)
    (next : Runs (membersWith fuel room false (before ++ [member])) rest
      (before ++ member :: members) after) :
    Runs (Reader.advance >>= fun _ => Reader.literal >>= fun name => Reader.colon >>= fun _ =>
        valueWith fuel room >>= fun value =>
          Reader.membersWith fuel room false (before.insert name value))
      (memberText member ++ rest) (before ++ member :: members) after := by
  have above : ∀ m ∈ before, m.1 < member.1 := fun m there =>
    (List.pairwise_append.mp sorted).2.2 m there member List.mem_cons_self
  rw [← Members.insert_eq_append above] at next
  exact Runs.member member ((Runs.colon _).bind ((legible fuel rest enough ends).bind next))

theorem Runs.membersWith_tail {room : Nat} (before : Members Json) {members : Members Json}
    (sorted : Members.Sorted (before ++ members))
    (each : ∀ member ∈ members, Legible room member.2) (fuel : Nat)
    (enough : 2 * (membersTail members).length < fuel) (rest : List Char) :
    Runs (membersWith fuel room false before) (membersTail members ++ '\x7d' :: rest)
      (before ++ members) ('\x7d' :: rest) := by
  obtain ⟨fuel, rfl⟩ : ∃ m, fuel = m + 1 := ⟨fuel - 1, by omega⟩
  induction members generalizing before fuel with
  | nil =>
    rw [List.append_nil]
    exact (Runs.hasMember_end false rest).bind (Runs.pure _ _)
  | cons member members ih =>
    obtain ⟨legible, each⟩ := List.forall_mem_cons.mp each
    have length : (memberText member).length ≥ member.2.render.length + 1 := by
      simp [memberText]
    simp only [membersTail, List.flatMap_cons, List.cons_append, List.length_cons,
      List.length_append] at enough ⊢
    obtain ⟨fuel, rfl⟩ : ∃ m, fuel = m + 1 := ⟨fuel - 1, by omega⟩
    rw [List.append_assoc]
    have further := ih (before ++ [member]) (by simpa using sorted) each fuel
      (by simp only [membersTail]; omega)
    rw [List.append_assoc, List.cons_append, List.nil_append] at further
    have step := Runs.membersWith_step before sorted legible (by omega)
      (ends_membersTail members rest) further
    exact (Runs.hasMember_next _).bind step

theorem Runs.membersWith {room : Nat} {members : Members Json} (sorted : members.Sorted)
    (each : ∀ member ∈ members, Legible room member.2) (fuel : Nat)
    (enough : 2 * (renderMembers members).length < fuel) (rest : List Char) :
    Runs (membersWith fuel room true []) (renderMembers members ++ '\x7d' :: rest) members
      ('\x7d' :: rest) := by
  obtain ⟨fuel, rfl⟩ : ∃ m, fuel = m + 1 := ⟨fuel - 1, by omega⟩
  cases members with
  | nil => exact (Runs.hasMember_end true rest).bind (Runs.pure _ _)
  | cons member members =>
    obtain ⟨legible, each⟩ := List.forall_mem_cons.mp each
    rw [renderMembers_cons, List.length_append] at enough
    rw [renderMembers_cons, List.append_assoc]
    have length : (memberText member).length ≥ member.2.render.length + 1 := by
      simp [memberText]
    have further := Runs.membersWith_tail [member] sorted each fuel (by omega) rest
    have step := Runs.membersWith_step [] sorted legible (by omega)
      (ends_membersTail members rest) further
    exact (Runs.hasMember_first _).bind step

end Reader

open Reader

/-- A value that fits and has only whole numbers is read as what it was. -/
theorem Fits.legible {room : Nat} {v : Json} (fits : Fits room v) (whole : v.isWhole = true) :
    Legible room v := by
  induction fits with
  | null =>
    rintro (_ | fuel) rest enough -
    · simp [render] at enough
    · exact Runs.past_spaces (by simp [render, Cursor.isSpace])
        ((Runs.advance _ _).bind ((Runs.word ['u', 'l', 'l'] rest).bind (Runs.pure _ _)))
  | bool value =>
    rintro (_ | fuel) rest enough -
    · cases value <;> simp [render] at enough
    · cases value with
      | true =>
        exact Runs.past_spaces (by simp [render, Cursor.isSpace])
          ((Runs.advance _ _).bind ((Runs.word ['r', 'u', 'e'] rest).bind (Runs.pure _ _)))
      | false =>
        exact Runs.past_spaces (by simp [render, Cursor.isSpace])
          ((Runs.advance _ _).bind ((Runs.word ['a', 'l', 's', 'e'] rest).bind (Runs.pure _ _)))
  | number value =>
    rintro fuel rest enough ends
    obtain ⟨c, more, eq, -⟩ := exists_render_eq (isWhole_of_eq_number whole)
    rw [eq, List.length_cons] at enough
    obtain ⟨fuel, rfl⟩ : ∃ m, fuel = m + 1 := ⟨fuel - 1, by omega⟩
    cases value with
    | integer value => exact Runs.integer whole ends fuel _
    | decimal value =>
      obtain rfl : value = ⟨true, .zero⟩ := by simpa [isWhole, Number.isWhole] using whole
      rw [render, Number.text_negative_zero]
      exact Runs.past_spaces (by simp [Cursor.isSpace])
        ((Runs.advance _ _).bind ((Runs.negative_zero ends).andThen Json.number))
  | string text =>
    rintro (_ | fuel) rest enough -
    · simp [render, literal] at enough
    · have chars := (Runs.literal text rest).andThen Json.string
      simp only [render, literal, List.cons_append, List.append_assoc, List.nil_append]
      exact Runs.past_spaces (by simp [Cursor.isSpace]) ((Runs.advance _ _).bind chars)
  | array each ih =>
    rename_i room items
    rintro fuel rest enough -
    have each : ∀ item ∈ items, item.isWhole = true ∧ Legible room item := fun item there =>
      have whole := itemsWhole_iff.mp whole item there
      ⟨whole, ih item there whole⟩
    simp only [render, List.length_cons, List.length_append] at enough
    obtain ⟨fuel, rfl⟩ : ∃ m, fuel = m + 1 := ⟨fuel - 1, by omega⟩
    have inside := Runs.enclose .array (Runs.itemsWith each fuel (by omega) rest)
    simp only [render, List.cons_append, List.append_assoc, List.nil_append]
    exact Runs.past_spaces (by simp [Cursor.isSpace])
      ((Runs.enter room _ _).bind (inside.andThen Json.array))
  | object each sorted ih =>
    rename_i room members
    rintro fuel rest enough -
    have each : ∀ member ∈ members, Legible room member.2 := fun member there =>
      ih member there (membersWhole_iff.mp whole member there)
    simp only [render, List.length_cons, List.length_append] at enough
    obtain ⟨fuel, rfl⟩ : ∃ m, fuel = m + 1 := ⟨fuel - 1, by omega⟩
    have inside := Runs.enclose .object (Runs.membersWith sorted each fuel (by omega) rest)
    simp only [render, List.cons_append, List.append_assoc, List.nil_append]
    exact Runs.past_spaces (by simp [Cursor.isSpace])
      ((Runs.enter room _ _).bind (inside.andThen Json.object))

/-- A value that fits and has only whole numbers is read as what it was, with fuel for any text. -/
theorem Fits.runs_value {room : Nat} {v : Json} (fits : Fits room v) (whole : v.isWhole = true)
    {rest : List Char} (ends : Ends rest.head?) : Runs (value room) (v.render ++ rest) v rest := by
  refine Runs.bound fun bound enough => fits.legible whole _ _ ?_ ends
  rw [List.length_append] at enough
  omega

/-- What is written without blanks is read back. -/
theorem parse_compact {v : Json} (fits : Fits maxDepth v) (whole : v.isWhole = true) :
    parse v.compact = .ok v := by
  have runs := fits.runs_value whole (by simp [Ends] : Ends ([] : List Char).head?)
  exact Runs.run (by simpa [compact] using runs)

end RemoteAttach.Json
