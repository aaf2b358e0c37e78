import RemoteAttach.Proofs.Json.Concur

/-! A value that is passed over ends where the same value ends when it is read. -/

namespace RemoteAttach.Json.Reader

variable {α β : Type} {P : Cursor → Prop} {R : Unit → α → Prop}

/-- The reader succeeds only without moving. -/
def Stays (s : Reader α) : Prop :=
  ∀ cur x cur', s cur = .ok (x, cur') → cur' = cur

/-- Nothing is done on either side. -/
theorem Concur.of_stays {s : Reader α} (stays : Stays s) :
    Concur P (Pure.pure ()) s fun _ _ => True := by
  intro cur x end_ y end' _ bounded left right
  obtain ⟨rfl, rfl⟩ := Prod.mk.inj (Except.ok.inj left)
  exact ⟨(stays _ _ _ right).symm, bounded, trivial⟩

/-! ### String literals -/

theorem Keeps.hexCode : Keeps hexCode :=
  (Moves.hexCode (Φ := Awaiting)).keeps ⟨['"'], fun _ => ⟨[], [], [], rfl, .nil, Awaiting.nil⟩⟩

/-- The mark of a second escape is next. -/
theorem Concur.surrogateMark_right {mark : Char} {r : Reader Unit} {g : Unit → Reader α}
    (h : Concur (Next (some mark)) r (advance >>= g) R) :
    Concur P r (surrogateMark mark >>= g) R := by
  intro cur x end_ y end' _ bounded left right
  unfold surrogateMark at right
  rw [bind_assoc, peek_bind] at right
  cases head : cur.rest.head? with
  | none =>
    rw [head] at right
    cases right
  | some c =>
    rw [head] at right
    dsimp only at right
    split at right
    · rename_i same
      exact h cur x end_ y end' (same ▸ head) bounded left right
    · cases right

/-- A second escape that is read for one character is passed over by itself. -/
theorem Concur.secondEscape {fuel : Nat} {g : Nat → Reader α}
    (next : ∀ m < fuel, ∀ code, Concur Anywhere (skipLiteral m) (g code) R) :
    Concur P (skipLiteral fuel)
      (surrogateMark '\\' >>= fun _ => surrogateMark 'u' >>= fun _ => hexCode >>= g) R := by
  cases fuel with
  | zero => exact Concur.of_left_fails (Ensures.failHere _ _)
  | succ fuel =>
    refine Concur.surrogateMark_right (Concur.peek_left ?_)
    refine Concur.same Keeps.advance fun _ => ?_
    refine Concur.surrogateMark_right (Concur.peek_left ?_)
    exact Concur.same Keeps.advance fun _ => Concur.same Keeps.hexCode fun code =>
      next fuel (Nat.lt_succ_self _) code

theorem Concur.skipLiteral (fuel fuel' : Nat) (read : List Char) :
    Concur P (skipLiteral fuel) (literalAfter fuel' read) fun _ _ => True := by
  induction fuel using Nat.strongRecOn generalizing P fuel' read with
  | ind fuel ih =>
    cases fuel with
    | zero => exact Concur.of_left_fails (Ensures.failHere _ _)
    | succ fuel =>
      cases fuel' with
      | zero => exact Concur.of_right_fails (Ensures.failHere _ _)
      | succ fuel' =>
        have next (d : Char) : Concur Anywhere (skipLiteral fuel) (literalAfter fuel' (d :: read))
            fun _ _ => True := ih fuel (Nat.lt_succ_self _) fuel' _
        refine Concur.peek fun c? => ?_
        split
        · exact Concur.of_left_fails (Ensures.failHere _ _)
        · exact (Concur.refl Keeps.advance).bind_right fun _ _ _ => Concur.pure trivial
        · refine Concur.same Keeps.advance fun _ => ?_
          unfold escape
          rw [bind_assoc]
          refine Concur.peek fun c? => ?_
          split
          · exact Concur.of_left_fails (Ensures.failHere _ _)
          · change Concur _ _ ((advance >>= fun _ => unicodeEscape) >>= _) _
            rw [bind_assoc]
            refine Concur.same Keeps.advance fun _ => ?_
            unfold unicodeEscape
            rw [bind_assoc]
            refine Concur.same Keeps.hexCode fun code => ?_
            split
            · exact Concur.of_right_fails fun _ _ _ run => nomatch run
            · split
              · simp only [bind_assoc]
                refine Concur.secondEscape fun m less second => ?_
                split
                · exact ih m (by omega) _ _
                · exact Concur.of_right_fails fun _ _ _ run => nomatch run
              · exact next _
          · rename_i c other
            cases escaped : escaped? c with
            | none => exact Concur.of_left_fails fun _ _ _ run => nomatch run
            | some d =>
              simp only [Option.isSome_some, ↓reduceIte]
              -- Only for a known letter does the match on the other side come down to its branch.
              unfold escaped? at escaped
              split at escaped
              iterate 8 exact Concur.same Keeps.advance fun _ => next _
              cases escaped
        · rename_i c noQuote noEscape
          split
          · exact Concur.of_left_fails (Ensures.failHere _ _)
          · rename_i control
            simpa only [noQuote, noEscape, if_neg control] using
              Concur.same Keeps.advance fun _ => next c

theorem Concur.skipString : Concur P skipString literal fun _ _ => True :=
  Concur.same Keeps.bound fun fuel =>
    (Concur.skipLiteral (fuel + 1) (fuel + 1) []).bind_right fun _ _ _ => Concur.pure trivial

/-! ### Numbers -/

theorem Stays.pure (x : α) : Stays (Pure.pure x) :=
  fun _ _ _ run => (Prod.mk.inj (Except.ok.inj run)).2.symm

theorem Stays.scaled (negative : Bool) (significand : Nat) (exponent : Int) :
    Stays (scaled negative significand exponent) := by
  unfold Reader.scaled
  split
  · exact Stays.pure _
  · exact fun _ _ _ run => nomatch run

theorem Keeps.digits : Keeps digits := by
  intro cur x cur' bounded run
  obtain ⟨-, rfl⟩ := Prod.mk.inj (Except.ok.inj run)
  exact le_trans ((List.drop_sublist _ _).length_le) bounded

/-- The digits ahead are the first one and those behind it. -/
theorem digits_of_digit {cur cur' : Cursor} {c : Char} {ds : List Char}
    (head : cur.rest.head? = some c) (digit : isDigit c = true) :
    digits cur = .ok (c :: ds, cur') ↔ digits cur.advance = .ok (ds, cur') := by
  obtain ⟨rest, eq⟩ := List.head?_eq_some_iff.mp head
  have small : c ≠ '\n' ∧ c.utf8Size = 1 := of_isDigit digit (by decide)
  have column : cur.position.column + ((rest.takeWhile isDigit).length + 1) =
      cur.position.column + 1 + (rest.takeWhile isDigit).length := by omega
  simp [digits, Cursor.advance, Position.after, eq, digit, small, column]

theorem digits_of_ends {cur : Cursor} (ends : ∀ c ∈ cur.rest.head?, isDigit c = false) :
    digits cur = .ok ([], cur) := by
  have none_ : ([] ++ cur.rest).takeWhile isDigit = [] := takeWhile_isDigit (by simp) ends
  rw [List.nil_append] at none_
  simp [digits, none_]

/-- The digits of an exponent are all digits ahead, or the first of them if there are too many. -/
theorem digits_of_exponentDigits {fuel value : Nat} {cur mid cur' : Cursor} {v? : Option Nat}
    {ds : List Char} (enough : cur.rest.length ≤ fuel)
    (run : exponentDigits value fuel cur = .ok (v?, mid)) (all : digits cur = .ok (ds, cur')) :
    (v?.isSome → mid = cur') ∧ ∃ rest, digits mid = .ok (rest, cur') := by
  have stopped {cur : Cursor} {ds : List Char} (all : digits cur = .ok (ds, cur'))
      (ends : ∀ c ∈ cur.rest.head?, isDigit c = false) (stays : mid = cur) :
      (v?.isSome → mid = cur') ∧ ∃ rest, digits mid = .ok (rest, cur') := by
    have same : cur = cur' := (Prod.mk.inj (Except.ok.inj ((digits_of_ends ends).symm.trans all))).2
    exact ⟨fun _ => stays.trans same, ds, stays ▸ all⟩
  induction fuel generalizing value cur ds with
  | zero =>
    have empty : cur.rest = [] := List.length_eq_zero_iff.mp (by omega)
    exact stopped all (by simp [empty]) (Stays.pure _ _ _ _ run)
  | succ fuel ih =>
    rw [exponentDigits, peek_bind] at run
    cases head : cur.rest.head? with
    | none =>
      rw [head] at run
      exact stopped all (by simp [head]) (Stays.pure _ _ _ _ run)
    | some c =>
      rw [head] at run
      dsimp only at run
      split at run
      · rename_i digit
        obtain ⟨rest, eq⟩ := List.head?_eq_some_iff.mp head
        obtain ⟨ds', end_, behind⟩ : ∃ ds' end_, digits cur.advance = .ok (ds', end_) := ⟨_, _, rfl⟩
        obtain ⟨-, rfl⟩ := Prod.mk.inj
          (Except.ok.inj (((digits_of_digit head digit).mpr behind).symm.trans all))
        have fewer : cur.advance.rest.length ≤ fuel := by
          rw [eq, List.length_cons] at enough
          rw [(Cursor.advance_rest eq).1]
          omega
        change (if _ then exponentDigits _ fuel else Pure.pure none) cur.advance = _ at run
        split at run
        · exact ih fewer run behind
        · obtain ⟨rfl, rfl⟩ := Prod.mk.inj (Except.ok.inj run)
          exact ⟨by simp, ds', behind⟩
      · rename_i other
        exact stopped all (by simpa [head] using other) (Stays.pure _ _ _ _ run)

/-- Digits that are passed over, of which there is to be one. -/
theorem Concur.exponentValue (negative : Bool) (significand : Nat) (exponent : Int) (down : Bool) :
    Concur P (digits >>= fun ds => if ds.isEmpty then failAhead .invalidNumber else Pure.pure ())
      (exponentValue negative significand exponent down) fun _ _ => True := by
  intro cur x end_ y end' _ bounded left right
  obtain ⟨ds, cur', all, left⟩ := exists_of_bind left
  have keeps : cur'.Bounded := Keeps.digits cur ds cur' bounded all
  have stopped : end_ = cur' := by
    split at left
    · cases left
    · exact Stays.pure _ _ _ _ left
  subst stopped
  unfold Reader.exponentValue at right
  rw [peek_bind] at right
  cases head : cur.rest.head? with
  | none =>
    rw [head] at right
    cases right
  | some c =>
    rw [head] at right
    dsimp only at right
    split at right
    · obtain ⟨fuel, _, eq, right⟩ := exists_of_bind right
      obtain ⟨rfl, rfl⟩ := Prod.mk.inj (Except.ok.inj eq)
      obtain ⟨v?, mid, run, right⟩ := exists_of_bind right
      obtain ⟨done, rest, behind⟩ := digits_of_exponentDigits bounded run all
      cases v? with
      | some value =>
        exact ⟨(done rfl).symm.trans (Stays.scaled _ _ _ _ _ _ right).symm, keeps, trivial⟩
      | none =>
        dsimp only at right
        split at right
        · cases right
        · obtain ⟨ds', mid', again, right⟩ := exists_of_bind right
          obtain ⟨-, rfl⟩ := Prod.mk.inj (Except.ok.inj (behind.symm.trans again))
          exact ⟨(Stays.pure _ _ _ _ right).symm, keeps, trivial⟩
    · cases right

theorem Concur.exponentPart (negative : Bool) (significand : Nat) (exponent : Int) :
    Concur P skipExponent (exponentPart negative significand exponent) fun _ _ => True := by
  rw [exponentPart_eq]
  refine Concur.same Keeps.advance fun _ => Concur.peek fun c? => ?_
  split
  · exact Concur.same Keeps.advance fun _ => Concur.exponentValue _ _ _ _
  · exact Concur.same Keeps.advance fun _ => Concur.exponentValue _ _ _ _
  · rename_i plus minus
    simpa only [plus, minus] using Concur.exponentValue _ _ _ _

theorem Concur.withExponent (negative : Bool) (significand : Nat) (exponent : Int) :
    Concur P (Reader.peek >>= fun c? => match c? with
        | some 'e' | some 'E' => skipExponent
        | _ => Pure.pure ())
      (withExponent negative significand exponent) fun _ _ => True := by
  refine Concur.peek fun c? => ?_
  split
  · exact Concur.exponentPart _ _ _
  · exact Concur.exponentPart _ _ _
  · rename_i small capital
    simpa only [small, capital] using Concur.of_stays (Stays.scaled _ _ _)

theorem Concur.fraction (negative : Bool) (significand : Nat) (exponent : Int) :
    Concur P (Reader.advance >>= fun _ => Reader.digits >>= fun ds =>
        if ds.isEmpty then Reader.failAhead .invalidNumber
        else Reader.peek >>= fun c? => match c? with
          | some 'e' | some 'E' => skipExponent
          | _ => Pure.pure ())
      (fraction negative significand exponent) fun _ _ => True := by
  refine Concur.same Keeps.advance fun _ => Concur.same Keeps.digits fun ds => ?_
  split
  · exact Concur.of_left_fails (Ensures.failAhead _ _)
  · exact Concur.withExponent _ _ _

/-- A whole number ends with its digits. -/
theorem Concur.wholeNumber (negative : Bool) (significand raised : Nat) {c? : Option Char}
    (point : c? ≠ some '.') (small : c? ≠ some 'e') (capital : c? ≠ some 'E') :
    Concur (Next c?) (Pure.pure ()) (afterDigits negative significand raised) fun _ _ => True := by
  refine Concur.peek_right (Concur.of_stays ?_)
  split
  · exact absurd rfl point
  · exact absurd rfl small
  · exact absurd rfl capital
  · split
    · exact Stays.scaled _ _ _
    · split
      · exact Stays.pure _
      · split
        · exact Stays.pure _
        · exact Stays.scaled _ _ _

theorem Concur.afterDigits (negative : Bool) (significand raised : Nat) :
    Concur P skipFraction (afterDigits negative significand raised) fun _ _ => True := by
  refine Concur.look fun c? => Concur.peek_left ?_
  split
  · exact Concur.peek_right (Concur.fraction _ _ _)
  · exact Concur.peek_right (Concur.exponentPart _ _ _)
  · exact Concur.peek_right (Concur.exponentPart _ _ _)
  · exact Concur.wholeNumber _ _ _ ‹_› ‹_› ‹_›

/-- A number that is passed over ends where it ends when it is read. -/
theorem Concur.skipNumber (negative : Bool) :
    Concur P skipNumber (number negative) fun _ _ => True := by
  refine Concur.peek fun c? => ?_
  split
  · refine Concur.same Keeps.advance fun _ => Concur.peek fun c? => ?_
    cases c? with
    | none => exact Concur.wholeNumber _ _ _ nofun nofun nofun
    | some c =>
      dsimp only
      split
      · exact Concur.of_left_fails (Ensures.failAhead _ _)
      · exact Concur.afterDigits _ _ _
  · rename_i other
    split
    · exact Concur.of_right_fails (Ensures.failHere _ _)
    · exact absurd rfl other
    · split
      · refine Concur.same Keeps.digits fun ds => ?_
        split
        · exact Concur.of_left_fails (Ensures.failAhead _ _)
        · exact Concur.afterDigits _ _ _
      · exact Concur.of_right_fails (Ensures.failAhead _ _)

/-! ### Values -/

/-- Passes over the rest of an array after its opening bracket, and over what follows. -/
def skipItems (fuel : Nat) (outer : List Bracket) : Reader Unit := do
  match ← skipSpaces with
  | none => failHere .endInList
  | some ']' =>
    advance
    skipAfter fuel outer
  | some _ => skipIn fuel (.array :: outer)

/-- Passes over the rest of an object after its opening bracket, and over what follows. -/
def skipMembers (fuel : Nat) (outer : List Bracket) : Reader Unit := do
  match ← skipSpaces with
  | none => failHere .endInObject
  | some '\x7d' =>
    advance
    skipAfter fuel outer
  | some _ =>
    skipName
    skipIn fuel (.object :: outer)

/-- A bracket that is passed over is opened if it is read. -/
theorem Concur.open_right {β γ : Type} (bracket : Bracket) (make : β → γ) (room : Nat)
    {r : Reader Unit} {s : Nat → Reader β} {k : γ → Reader α}
    (h : ∀ inside, Concur Anywhere r
      (s inside >>= fun y => bracket.close >>= fun _ => k (make y)) R) :
    Concur P (Reader.advance >>= fun _ => r)
      ((Reader.enter room >>= fun inside => bracket.enclose (s inside) >>= fun y =>
        Pure.pure (make y)) >>= k) R := by
  cases room with
  | zero => exact Concur.of_right_fails fun _ _ _ run => nomatch run
  | succ room =>
    have body : Concur P (Reader.advance >>= fun _ => r)
        (Reader.advance >>= fun _ => bracket.enclose (s room) >>= fun y => k (make y)) R :=
      Concur.same Keeps.advance fun _ => Concur.enclose_right (h room)
    simpa only [Reader.enter, bind_assoc, pure_bind] using body

mutual

/-- A value is passed over up to where it ends when it is read, and then what follows it. -/
theorem Concur.skipIn {k : Json → Reader α} (room n : Nat) (outer : List Bracket) : (fuel : Nat) →
    (∀ m v, Concur Anywhere (skipAfter m outer) (k v) R) →
    Concur Anywhere (skipIn n outer) (Reader.valueWith fuel room >>= k) R
  | 0, _ => Concur.of_right_fails fun _ _ _ run => nomatch run
  | fuel + 1, next => by
    cases n with
    | zero => exact Concur.of_left_fails (Ensures.failHere _ _)
    | succ n =>
      have keyword (text : List Char) (v : Json) :
          Concur Anywhere
            (Reader.advance >>= fun _ => Reader.word text >>= fun _ => skipAfter n outer)
            ((Reader.advance >>= fun _ => Reader.word text >>= fun _ => Pure.pure v) >>= k) R := by
        simp only [bind_assoc, pure_bind]
        exact Concur.same Keeps.advance fun _ => Concur.same (Keeps.word text) fun _ => next n v
      have literal : Concur Anywhere
          (Reader.advance >>= fun _ => Reader.skipString >>= fun _ => skipAfter n outer)
          ((Reader.advance >>= fun _ => Reader.literal >>= fun text =>
            Pure.pure (.string text)) >>= k) R := by
        simp only [bind_assoc, pure_bind]
        exact Concur.same Keeps.advance fun _ => Concur.skipString.bind fun _ text _ => next n _
      have numeral (negative : Bool) :
          Concur Anywhere (Reader.skipNumber >>= fun _ => skipAfter n outer)
            ((Reader.number negative >>= fun x => Pure.pure (.number x)) >>= k) R := by
        simp only [bind_assoc, pure_bind]
        exact (Concur.skipNumber negative).bind fun _ x _ => next n _
      have minus : Concur Anywhere
          (Reader.advance >>= fun _ => Reader.skipNumber >>= fun _ => skipAfter n outer)
          ((Reader.advance >>= fun _ => Reader.number true >>= fun x =>
            Pure.pure (.number x)) >>= k) R := by
        rw [bind_assoc]
        exact Concur.same Keeps.advance fun _ => numeral true
      have items := Concur.open_right (P := Anywhere) .array Json.array room fun inside =>
        Concur.skipItems inside n outer fuel fun m items => next m (.array items)
      have members := Concur.open_right (P := Anywhere) .object Json.object room fun inside =>
        Concur.skipMembers inside n outer fuel fun m members => next m (.object members)
      rw [Reader.valueWith, bind_assoc]
      refine Concur.past_spaces fun c? => Concur.anywhere ?_
      split
      · exact Concur.of_left_fails (Ensures.failHere _ _)
      · exact keyword _ _
      · exact keyword _ _
      · exact keyword _ _
      · exact minus
      · exact literal
      · exact items
      · exact members
      · split
        · rename_i digit
          have digits := mem_of_isDigit digit
          simp only [List.mem_cons, List.not_mem_nil, or_false] at digits
          rcases digits with rfl | rfl | rfl | rfl | rfl | rfl | rfl | rfl | rfl | rfl <;>
            exact numeral false
        · exact Concur.of_left_fails (Ensures.failAhead _ _)
termination_by structural fuel => fuel

theorem Concur.skipItems {k : List Json → Reader α} (room n : Nat) (outer : List Bracket) :
    (fuel : Nat) → (∀ m items, Concur Anywhere (skipAfter m outer) (k items) R) →
    Concur Anywhere (skipItems n outer)
      (Reader.itemsWith fuel room true >>= fun items => Reader.closeArray >>= fun _ => k items) R
  | 0, _ => Concur.of_right_fails fun _ _ _ run => nomatch run
  | fuel + 1, next => by
    have item : Concur Anywhere (Reader.skipIn n (.array :: outer))
        (Reader.valueWith fuel room >>= fun item => Reader.itemsWith fuel room false >>= fun rest =>
          Reader.closeArray >>= fun _ => k (item :: rest)) R :=
      Concur.skipIn room n (.array :: outer) fuel fun m item =>
        Concur.skipAfter_array room m outer fuel fun m rest => next m (item :: rest)
    rw [Reader.itemsWith]
    unfold Reader.hasItem
    rw [bind_assoc, bind_assoc]
    refine Concur.past_spaces fun c? => ?_
    split
    · exact Concur.of_left_fails (Ensures.failHere _ _)
    · simp only [Bool.false_eq_true, ↓reduceIte, pure_bind]
      rw [Reader.closeArray, bind_assoc]
      refine Concur.past_spaces_right.mpr ?_
      exact Concur.same Keeps.advance fun _ => next n []
    · rename_i c other
      simpa [other] using item.anywhere
termination_by structural fuel => fuel

theorem Concur.skipMembers {k : Members Json → Reader α} (room n : Nat) (outer : List Bracket) :
    (fuel : Nat) → (∀ m members, Concur Anywhere (skipAfter m outer) (k members) R) →
    Concur Anywhere (skipMembers n outer)
      (Reader.membersWith fuel room true [] >>= fun members =>
        Reader.closeObject >>= fun _ => k members) R
  | 0, _ => Concur.of_right_fails fun _ _ _ run => nomatch run
  | fuel + 1, next => by
    have member (name : String) : Concur Anywhere (Reader.skipIn n (.object :: outer))
        (Reader.valueWith fuel room >>= fun v =>
          Reader.membersWith fuel room false (Members.insert name v []) >>= fun members =>
            Reader.closeObject >>= fun _ => k members) R :=
      Concur.skipIn room n (.object :: outer) fuel fun m v =>
        Concur.skipAfter_object room m outer _ fuel next
    rw [Reader.membersWith]
    unfold Reader.hasMember
    rw [bind_assoc, bind_assoc]
    refine Concur.past_spaces fun c? => ?_
    split
    · exact Concur.of_left_fails (Ensures.failHere _ _)
    · simp only [Bool.false_eq_true, ↓reduceIte, pure_bind]
      rw [Reader.closeObject, bind_assoc]
      refine Concur.past_spaces_right.mpr ?_
      exact Concur.same Keeps.advance fun _ => next n []
    · rename_i c other
      rw [Reader.skipName, bind_assoc]
      refine Concur.past_spaces_left.mpr ?_
      split
      · rename_i quote
        obtain rfl := Option.some.inj quote
        simp only [↓reduceIte, bind_assoc, pure_bind]
        refine Concur.same Keeps.advance fun _ => Concur.skipString.bind fun _ name _ => ?_
        exact Concur.same Keeps.colon fun _ => member name
      · exact Concur.of_left_fails fun _ _ _ run => nomatch run
      · exact Concur.of_left_fails fun _ _ _ run => nomatch run
termination_by structural fuel => fuel

theorem Concur.skipAfter_array {k : List Json → Reader α} (room n : Nat) (outer : List Bracket) :
    (fuel : Nat) → (∀ m items, Concur Anywhere (skipAfter m outer) (k items) R) →
    Concur Anywhere (skipAfter n (.array :: outer))
      (Reader.itemsWith fuel room false >>= fun items => Reader.closeArray >>= fun _ => k items) R
  | 0, _ => Concur.of_right_fails fun _ _ _ run => nomatch run
  | fuel + 1, next => by
    cases n with
    | zero => exact Concur.of_left_fails (Ensures.failHere _ _)
    | succ n =>
      have item : Concur Anywhere (Reader.skipIn n (.array :: outer))
          (Reader.valueWith fuel room >>= fun item =>
            Reader.itemsWith fuel room false >>= fun rest =>
              Reader.closeArray >>= fun _ => k (item :: rest)) R :=
        Concur.skipIn room n (.array :: outer) fuel fun m item =>
          Concur.skipAfter_array room m outer fuel fun m rest => next m (item :: rest)
      rw [Reader.itemsWith]
      unfold Reader.hasItem
      rw [bind_assoc, bind_assoc]
      refine Concur.past_spaces fun c? => ?_
      split
      · exact Concur.of_left_fails (Ensures.failHere _ _)
      · contradiction
      · simp only [Char.reduceEq, imp_self, Bool.false_eq_true, ↓reduceIte, bind_assoc]
        refine Concur.same Keeps.advance fun _ => ?_
        cases n with
        | zero => exact Concur.of_left_fails (Ensures.failHere _ _)
        | succ n =>
          refine Concur.past_spaces_later rfl fun c? => ?_
          split
          · exact Concur.of_right_fails fun _ _ _ run => nomatch run
          · simpa only [pure_bind, ↓reduceIte, bind_assoc] using item.anywhere
          · exact Concur.of_right_fails fun _ _ _ run => nomatch run
      · contradiction
      · simp only [Bool.false_eq_true, ↓reduceIte, pure_bind]
        rw [Reader.closeArray, bind_assoc]
        refine Concur.past_spaces_right.mpr ?_
        exact Concur.same Keeps.advance fun _ => next n []
      · contradiction
      · exact Concur.of_left_fails (Ensures.failAhead _ _)
      · contradiction
termination_by structural fuel => fuel

theorem Concur.skipAfter_object {k : Members Json → Reader α} (room n : Nat) (outer : List Bracket)
    (members : Members Json) :
    (fuel : Nat) → (∀ m members, Concur Anywhere (skipAfter m outer) (k members) R) →
    Concur Anywhere (skipAfter n (.object :: outer))
      (Reader.membersWith fuel room false members >>= fun members =>
        Reader.closeObject >>= fun _ => k members) R
  | 0, _ => Concur.of_right_fails fun _ _ _ run => nomatch run
  | fuel + 1, next => by
    cases n with
    | zero => exact Concur.of_left_fails (Ensures.failHere _ _)
    | succ n =>
      have member (name : String) : Concur Anywhere (Reader.skipIn n (.object :: outer))
          (Reader.valueWith fuel room >>= fun v =>
            Reader.membersWith fuel room false (Members.insert name v members) >>= fun members =>
              Reader.closeObject >>= fun _ => k members) R :=
        Concur.skipIn room n (.object :: outer) fuel fun m v =>
          Concur.skipAfter_object room m outer _ fuel next
      rw [Reader.membersWith]
      unfold Reader.hasMember
      rw [bind_assoc, bind_assoc]
      refine Concur.past_spaces fun c? => ?_
      split
      · contradiction
      · exact Concur.of_left_fails (Ensures.failHere _ _)
      · contradiction
      · simp only [Char.reduceEq, imp_self, Bool.false_eq_true, ↓reduceIte, bind_assoc]
        refine Concur.same Keeps.advance fun _ => ?_
        rw [Reader.skipName, bind_assoc]
        refine Concur.past_spaces fun c? => ?_
        split
        · simp only [bind_assoc, pure_bind, ↓reduceIte]
          refine Concur.same Keeps.advance fun _ => Concur.skipString.bind fun _ name _ => ?_
          exact Concur.same Keeps.colon fun _ => member name
        · exact Concur.of_left_fails fun _ _ _ run => nomatch run
        · exact Concur.of_left_fails fun _ _ _ run => nomatch run
      · contradiction
      · simp only [Bool.false_eq_true, ↓reduceIte, pure_bind]
        rw [Reader.closeObject, bind_assoc]
        refine Concur.past_spaces_right.mpr ?_
        exact Concur.same Keeps.advance fun _ => next n members
      · contradiction
      · exact Concur.of_left_fails (Ensures.failAhead _ _)
termination_by structural fuel => fuel

end

/-- A value that is passed over ends where it ends when it is read. -/
theorem Concur.skipValue (fuel room : Nat) :
    Concur Anywhere skipValue (Reader.valueWith fuel room) fun _ _ => True := by
  intro cur x end_ y end' place bounded left right
  have both := Concur.skipIn (R := fun _ _ => True) (k := Pure.pure) room (2 * cur.bound + 2) [] fuel
    fun m v => by cases m <;> exact Concur.pure trivial
  rw [bind_pure] at both
  exact both cur x end_ y end' trivial bounded left right

end RemoteAttach.Json.Reader
