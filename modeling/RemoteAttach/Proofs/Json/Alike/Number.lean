import RemoteAttach.Json.Skip
import RemoteAttach.Proofs.Json.Alike

/-! Numbers are read alike: what stands behind a number continues none. -/

namespace RemoteAttach.Json.Reader

variable {α : Type} {Q : α → Cursor → Cursor → Prop} {n : Nat} {num : Numeral}

/-- Only a number begins with a digit, and nothing else that continues a number begins a token. -/
theorem ends_of_token {t : Token} (other : t.isNumber = false) : Ends t.text.head? := by
  intro c head
  cases t with
  | opening bracket | closing bracket =>
    cases bracket <;> (obtain rfl := Option.some.inj head; decide)
  | comma | colon | literal parts => obtain rfl := Option.some.inj head; decide
  | keyword word => rcases word with _ | _ | _ <;> (obtain rfl := Option.some.inj head; decide)
  | number num => exact absurd other (by simp [Token.isNumber])

/-- Behind a number stands nothing that continues it. -/
theorem ends_of_spaced {tokens : List Token} {text : List Char}
    (apart : (Token.number num :: tokens).IsChain Token.Apart) (spaced : Spaced tokens text) :
    Ends text.head? := by
  cases spaced with
  | nil => simp [Ends]
  | space blank rest =>
    rintro c head
    obtain rfl := Option.some.inj head
    simp only [Cursor.isSpace, Bool.or_eq_true, decide_eq_true_eq] at blank
    rcases blank with ((rfl | rfl) | rfl) | rfl <;> decide
  | token t rest =>
    have other : t.isNumber = false := (List.isChain_cons_cons.mp apart).1 rfl
    obtain ⟨c, more, eq⟩ := List.exists_cons_of_ne_nil t.text_ne_nil
    have ends := ends_of_token other
    rwa [eq] at ends ⊢

theorem Within.ends {a b : Cursor} (within : Within (.number num) [] n a b) :
    Ends a.rest.head? ∧ Ends b.rest.head? := by
  obtain ⟨tokens, left, right, few, apart, h1, h2, ha, hb⟩ := within.exists_rest
  rw [ha, hb]
  exact ⟨ends_of_spaced apart h1, ends_of_spaced apart h2⟩

/-- At the end of a number both cursors have something ahead that does not continue it. -/
theorem Alike.peek_end_of {f : Option Char → Reader α} {r : Reader α}
    (same : ∀ {cur : Cursor}, Ends cur.rest.head? → f cur.rest.head? cur = r cur)
    (next : Alike (Within (.number num) [] n) r r Q) :
    Alike (Within (.number num) [] n) (Reader.peek >>= f) (Reader.peek >>= f) Q := by
  intro a b within
  rw [peek_bind, peek_bind, same within.ends.1, same within.ends.2]
  exact next a b within

theorem Alike.peek_end {f : Option Char → Reader α} (same : ∀ c?, Ends c? → f c? = f none)
    (next : Alike (Within (.number num) [] n) (f none) (f none) Q) :
    Alike (Within (.number num) [] n) (Reader.peek >>= f) (Reader.peek >>= f) Q :=
  Alike.peek_end_of (fun ends => congrFun (same _ ends) _) next

/-- Digits are read alike up to where they end. -/
theorem Alike.digits {ds more : List Char} {f g : List Char → Reader α}
    (all : ∀ c ∈ ds, isDigit c = true) (stop : ∀ c ∈ more.head?, isDigit c = false)
    (next : Alike (Within (.number num) more n) (f ds) (g ds) Q) :
    Alike (Within (.number num) (ds ++ more) n) (Reader.digits >>= f) (Reader.digits >>= g) Q := by
  refine Alike.bind (Q := fun x a b => x = ds ∧ Within (.number num) more n a b) ?_ ?_
  · rintro a b ⟨⟨tokens, left, right, few, apart, h1, h2, ha, hb⟩, ba, bb⟩
    have stops {text : List Char} (spaced : Spaced tokens text) :
        ∀ c ∈ (more ++ text).head?, isDigit c = false := by
      cases more with
      | nil => exact fun c head => (ends_of_spaced apart spaced c head).1
      | cons d more => exact stop
    have taken {cur : Cursor} {text : List Char} (eq : cur.rest = ds ++ more ++ text)
        (spaced : Spaced tokens text) : cur.rest.takeWhile isDigit = ds := by
      rw [eq, List.append_assoc, takeWhile_isDigit all (stops spaced)]
    unfold Reader.digits
    dsimp only
    rw [taken ha h1, taken hb h2]
    refine .ok ⟨rfl, ⟨tokens, left, right, few, apart, h1, h2, ?_, ?_⟩, ?_, ?_⟩
    · simp [ha]
    · simp [hb]
    · simp only [List.length_drop]
      omega
    · simp only [List.length_drop]
      omega
  · rintro x a b ⟨rfl, within⟩
    exact next a b within

/-! ### Numbers that are asked for -/

theorem Alike.scaled (negative : Bool) (significand : Nat) (exponent : Int) :
    Alike (Within (.number num) [] n) (scaled negative significand exponent)
      (scaled negative significand exponent) fun _ => Left n := by
  unfold Reader.scaled
  split
  · exact Alike.pure fun _ _ => Within.left
  · exact Alike.failHere _

/-- No digit is ahead of a number's end. -/
theorem exponentDigits_end {cur : Cursor} (ends : Ends cur.rest.head?) (value fuel : Nat) :
    exponentDigits value fuel cur = .ok (some value, cur) := by
  cases fuel with
  | zero => rfl
  | succ fuel =>
    rw [exponentDigits, peek_bind]
    cases head : cur.rest.head? with
    | none => rfl
    | some c => simp [(ends c head).1]; rfl

/-- The digits of an exponent are read alike, up to their end or the first one too many. -/
theorem Alike.exponentDigits {ds : List Char} (all : ∀ c ∈ ds, isDigit c = true) (value : Nat)
    {fuel fuel' : Nat} (enough : ds.length ≤ fuel) (enough' : ds.length ≤ fuel') :
    Alike (Within (.number num) ds n) (exponentDigits value fuel) (exponentDigits value fuel')
      fun x a b => ∃ more : List Char, (∀ c ∈ more, isDigit c = true) ∧
        (x.isSome → more = []) ∧ Within (.number num) more n a b := by
  induction ds generalizing value fuel fuel' with
  | nil =>
    intro a b within
    rw [exponentDigits_end within.ends.1, exponentDigits_end within.ends.2]
    exact .ok ⟨[], by simp, fun _ => rfl, within⟩
  | cons c ds ih =>
    obtain ⟨fuel, rfl⟩ : ∃ m, fuel = m + 1 := ⟨fuel - 1, by simp at enough; omega⟩
    obtain ⟨fuel', rfl⟩ : ∃ m, fuel' = m + 1 := ⟨fuel' - 1, by simp at enough'; omega⟩
    obtain ⟨digit, all⟩ := List.forall_mem_cons.mp all
    refine Alike.peek ?_
    simp only [digit, ↓reduceIte]
    refine Alike.advance.bind fun _ => ?_
    split
    · exact ih all _ (by simpa using enough) (by simpa using enough')
    · exact Alike.pure fun a b within => ⟨ds, all, by simp, within⟩

/-- The number of a significand and a power of ten with the digits of the exponent ahead. -/
def exponentValue (negative : Bool) (significand : Nat) (exponent : Int) (down : Bool) :
    Reader Number := do
  match ← peek with
  | none => failHere .endInValue
  | some c =>
    if isDigit c then
      match ← exponentDigits 0 (← bound) with
      | some value =>
        scaled negative significand (if down then exponent - value else exponent + value)
      | none =>
        if significand ≠ 0 && !down then failHere .numberOutOfRange
        else
          let _ ← digits
          pure (.decimal ⟨negative, .zero⟩)
    else failAhead .invalidNumber

theorem exponentPart_eq (negative : Bool) (significand : Nat) (exponent : Int) :
    exponentPart negative significand exponent = (do
      advance
      match ← peek with
      | some '+' => advance; exponentValue negative significand exponent false
      | some '-' => advance; exponentValue negative significand exponent true
      | _ => exponentValue negative significand exponent false) := by
  rfl

theorem Alike.exponentValue (negative : Bool) (significand : Nat) (exponent : Int) (down : Bool)
    (ds : Digits) :
    Alike (Within (.number num) ds.chars n) (exponentValue negative significand exponent down)
      (exponentValue negative significand exponent down) fun _ => Left n := by
  obtain ⟨c, rest, eq⟩ := List.exists_cons_of_ne_nil ds.some_
  have all := ds.all
  rw [eq] at all ⊢
  refine Alike.peek ?_
  simp only [all c (by simp), ↓reduceIte]
  refine Alike.bound_within fun x y hx hy => ?_
  refine (Alike.exponentDigits all 0 hx hy).bind fun value? => ?_
  split
  · rintro a b ⟨more, -, done, within⟩
    obtain rfl := done rfl
    exact Alike.scaled _ _ _ a b within
  · split
    · exact Alike.failHere _
    · rintro a b ⟨more, digits, -, within⟩
      rw [← List.append_nil more] at within
      refine Alike.digits digits (by simp) ?_ a b within
      exact Alike.pure fun _ _ => Within.left

/-- An exponent part is read alike. -/
theorem Alike.exponentPart (negative : Bool) (significand : Nat) (exponent : Int) (e : Exponent) :
    Alike (Within (.number num) e.text n) (exponentPart negative significand exponent)
      (exponentPart negative significand exponent) fun _ => Left n := by
  rw [exponentPart_eq]
  refine Alike.advance.bind fun _ => ?_
  rcases e.sign_eq with sign | sign | sign
  · obtain ⟨d, ds, eq⟩ := List.exists_cons_of_ne_nil e.digits.some_
    have digit : isDigit d = true := e.digits.all d (by simp [eq])
    rw [sign, List.nil_append, eq]
    refine Alike.peek ?_
    rw [← eq]
    split
    · rename_i same
      obtain rfl := Option.some.inj same
      exact absurd digit (by decide)
    · rename_i same
      obtain rfl := Option.some.inj same
      exact absurd digit (by decide)
    · exact Alike.exponentValue _ _ _ _ _
  · rw [sign]
    exact Alike.peek (Alike.advance.bind fun _ => Alike.exponentValue _ _ _ _ _)
  · rw [sign]
    exact Alike.peek (Alike.advance.bind fun _ => Alike.exponentValue _ _ _ _ _)

/-- Digits before an exponent part are followed by none. -/
theorem exponent_stop (e? : Option Exponent) :
    ∀ c ∈ (e?.elim [] Exponent.text).head?, isDigit c = false := by
  cases e? with
  | none => simp
  | some e =>
    rintro c head
    obtain rfl := Option.some.inj head
    rcases e.mark_eq with mark | mark <;> rw [mark] <;> decide

theorem Alike.withExponent (negative : Bool) (significand : Nat) (exponent : Int)
    (e? : Option Exponent) :
    Alike (Within (.number num) (e?.elim [] Exponent.text) n)
      (withExponent negative significand exponent) (withExponent negative significand exponent)
      fun _ => Left n := by
  cases e? with
  | none =>
    refine Alike.peek_end (fun c? ends => ?_) (Alike.scaled _ _ _)
    obtain ⟨-, small, capital⟩ := ne_of_ends ends
    split
    · exact absurd rfl small
    · exact absurd rfl capital
    · rfl
  | some e =>
    have part : Alike (Within (.number num) e.text n) _ _ fun _ => Left n :=
      Alike.exponentPart negative significand exponent e
    obtain ⟨mark, rfl | rfl, sign, sign_eq, digits⟩ := e
    · exact Alike.peek part
    · exact Alike.peek part

/-- A fraction is read alike, with the exponent part behind it. -/
theorem Alike.fraction (negative : Bool) (significand : Nat) (exponent : Int) (ds : Digits)
    (e? : Option Exponent) :
    Alike (Within (.number num) ('.' :: (ds.chars ++ e?.elim [] Exponent.text)) n)
      (fraction negative significand exponent) (fraction negative significand exponent)
      fun _ => Left n := by
  refine Alike.advance.bind fun _ => Alike.digits ds.all (exponent_stop e?) ?_
  simp only [ds.isEmpty_chars, Bool.false_eq_true, ↓reduceIte]
  exact Alike.withExponent _ _ _ e?

/-- What stands behind the digits before the point is read alike. -/
theorem Alike.afterDigits (negative : Bool) (significand raised : Nat) :
    Alike (Within (.number num) num.tail n) (afterDigits negative significand raised)
      (afterDigits negative significand raised) fun _ => Left n := by
  unfold Numeral.tail
  cases num.fraction with
  | some ds => exact Alike.peek (Alike.fraction _ _ _ ds num.exponent)
  | none =>
    cases num.exponent with
    | none =>
      refine Alike.peek_end (fun c? ends => ?_) ?_
      · obtain ⟨point, small, capital⟩ := ne_of_ends ends
        split
        · exact absurd rfl point
        · exact absurd rfl small
        · exact absurd rfl capital
        · rfl
      · have whole (value : Number) : Alike (Within (.number num) [] n) (Pure.pure value)
            (Pure.pure value) fun _ => Left n := Alike.pure fun _ _ => Within.left
        dsimp only
        split
        · exact Alike.scaled _ _ _
        · split
          · exact whole _
          · split
            · exact whole _
            · exact Alike.scaled _ _ _
    | some e =>
      have part : Alike (Within (.number num) e.text n) _ _ fun _ => Left n :=
        Alike.exponentPart negative significand raised e
      obtain ⟨mark, rfl | rfl, sign, sign_eq, digits⟩ := e
      · exact Alike.peek part
      · exact Alike.peek part

/-- The digits before the point are followed by none. -/
theorem Numeral.tail_stop (num : Numeral) : ∀ c ∈ num.tail.head?, isDigit c = false := by
  rintro c head
  unfold Numeral.tail at head
  cases fraction : num.fraction with
  | some ds =>
    rw [fraction] at head
    obtain rfl := Option.some.inj head
    decide
  | none =>
    rw [fraction] at head
    exact exponent_stop num.exponent c head

/-- A number is read alike, after its sign. -/
theorem Alike.number_within (negative : Bool) :
    Alike (Within (.number num) (num.whole.chars ++ num.tail) n) (number negative)
      (number negative) fun _ => Left n := by
  obtain ⟨c, ds, eq⟩ := List.exists_cons_of_ne_nil num.whole.some_
  have digit : isDigit c = true := num.whole.all c (by simp [eq])
  rw [eq, List.cons_append]
  refine Alike.peek ?_
  split
  · rename_i impossible
    exact absurd impossible (by simp)
  · rename_i zero
    obtain rfl := Option.some.inj zero
    obtain rfl : ds = [] := by
      have only := num.canonical (by rw [eq]; rfl)
      rw [eq] at only
      exact (List.cons.inj only).2
    refine Alike.advance.bind fun _ => ?_
    have after : Alike (Within (.number num) num.tail n) _ _ fun _ => Left n :=
      Alike.afterDigits negative 0 0
    have stop := Numeral.tail_stop num
    rw [List.nil_append]
    generalize num.tail = tail at after stop ⊢
    cases tail with
    | nil =>
      refine Alike.peek_end (fun c? ends => ?_) after
      cases c? with
      | none => rfl
      | some c => simp [(ends c rfl).1]
    | cons c tail =>
      refine Alike.peek ?_
      simpa [stop c rfl] using after
  · rename_i same
    obtain rfl := Option.some.inj same
    rw [if_pos digit, ← List.cons_append, ← eq]
    exact Alike.digits num.whole.all (Numeral.tail_stop num) (Alike.afterDigits _ _ _)

/-! ### Numbers that nobody asks for -/

/-- An exponent part is passed over alike. -/
theorem Alike.skipExponent (e : Exponent) :
    Alike (Within (.number num) e.text n) skipExponent skipExponent fun _ => Left n := by
  have value : Alike (Within (.number num) e.digits.chars n)
      (do if (← Reader.digits).isEmpty then Reader.failAhead .invalidNumber)
      (do if (← Reader.digits).isEmpty then Reader.failAhead .invalidNumber) fun _ => Left n := by
    rw [← List.append_nil e.digits.chars]
    refine Alike.digits e.digits.all (by simp) ?_
    simp only [e.digits.isEmpty_chars, Bool.false_eq_true, ↓reduceIte]
    exact Alike.pure fun _ _ => Within.left
  refine Alike.advance.bind fun _ => ?_
  rcases e.sign_eq with sign | sign | sign
  · obtain ⟨d, ds, eq⟩ := List.exists_cons_of_ne_nil e.digits.some_
    have digit : isDigit d = true := e.digits.all d (by simp [eq])
    rw [sign, List.nil_append, eq]
    refine Alike.peek ?_
    rw [← eq]
    split
    · rename_i same
      obtain rfl := Option.some.inj same
      exact absurd digit (by decide)
    · rename_i same
      obtain rfl := Option.some.inj same
      exact absurd digit (by decide)
    · exact value
  · rw [sign]
    exact Alike.peek (Alike.advance.bind fun _ => value)
  · rw [sign]
    exact Alike.peek (Alike.advance.bind fun _ => value)

/-- Nothing is passed over at the end of a number. -/
theorem skipFraction_end {cur : Cursor} (ends : Ends cur.rest.head?) :
    skipFraction cur = .ok ((), cur) := by
  obtain ⟨point, small, capital⟩ := ne_of_ends ends
  rw [Reader.skipFraction, peek_bind]
  generalize cur.rest.head? = c? at point small capital
  split
  · exact absurd rfl point
  · exact absurd rfl small
  · exact absurd rfl capital
  · rfl

/-- What stands behind the digits before the point is passed over alike. -/
theorem Alike.skipFraction :
    Alike (Within (.number num) num.tail n) skipFraction skipFraction fun _ => Left n := by
  unfold Numeral.tail
  cases num.fraction with
  | some ds =>
    refine Alike.peek (Alike.advance.bind fun _ => ?_)
    refine Alike.digits ds.all (exponent_stop num.exponent) ?_
    simp only [ds.isEmpty_chars, Bool.false_eq_true, ↓reduceIte]
    cases num.exponent with
    | none =>
      refine Alike.peek_end (fun c? ends => ?_) (Alike.pure fun _ _ => Within.left)
      obtain ⟨-, small, capital⟩ := ne_of_ends ends
      split
      · exact absurd rfl small
      · exact absurd rfl capital
      · rfl
    | some e =>
      have part : Alike (Within (.number num) e.text n) _ _ fun _ => Left n := Alike.skipExponent e
      obtain ⟨mark, rfl | rfl, sign, sign_eq, digits⟩ := e
      · exact Alike.peek part
      · exact Alike.peek part
  | none =>
    cases num.exponent with
    | none =>
      refine Alike.peek_end (fun c? ends => ?_) (Alike.pure fun _ _ => Within.left)
      obtain ⟨point, small, capital⟩ := ne_of_ends ends
      split
      · exact absurd rfl point
      · exact absurd rfl small
      · exact absurd rfl capital
      · rfl
    | some e =>
      have part : Alike (Within (.number num) e.text n) _ _ fun _ => Left n := Alike.skipExponent e
      obtain ⟨mark, rfl | rfl, sign, sign_eq, digits⟩ := e
      · exact Alike.peek part
      · exact Alike.peek part

/-- A number is passed over alike, after its sign. -/
theorem Alike.skipNumber_within :
    Alike (Within (.number num) (num.whole.chars ++ num.tail) n) skipNumber skipNumber
      fun _ => Left n := by
  obtain ⟨c, ds, eq⟩ := List.exists_cons_of_ne_nil num.whole.some_
  have digit : isDigit c = true := num.whole.all c (by simp [eq])
  rw [eq, List.cons_append]
  refine Alike.peek ?_
  split
  · rename_i zero
    obtain rfl := Option.some.inj zero
    obtain rfl : ds = [] := by
      have only := num.canonical (by rw [eq]; rfl)
      rw [eq] at only
      exact (List.cons.inj only).2
    refine Alike.advance.bind fun _ => ?_
    have after : Alike (Within (.number num) num.tail n) _ _ fun _ => Left n := Alike.skipFraction
    have stop := Numeral.tail_stop num
    rw [List.nil_append]
    generalize num.tail = tail at after stop ⊢
    cases tail with
    | nil =>
      refine Alike.peek_end_of (r := Pure.pure ()) (fun {cur} ends => ?_)
        (Alike.pure fun _ _ => Within.left)
      have skipped : Reader.skipFraction cur = (Pure.pure () : Reader Unit) cur := skipFraction_end ends
      cases head : cur.rest.head? with
      | none => rfl
      | some c => simpa [(ends c head).1] using skipped
    | cons c tail =>
      refine Alike.peek ?_
      simpa [stop c rfl] using after
  · rw [← List.cons_append, ← eq]
    refine Alike.digits num.whole.all (Numeral.tail_stop num) ?_
    simp only [num.whole.isEmpty_chars, Bool.false_eq_true, ↓reduceIte]
    exact Alike.skipFraction

/-- Both cursors are past the sign of the same number. -/
def Signed (n : Nat) (a b : Cursor) : Prop :=
  ∃ num : Numeral, Within (.number num) (num.whole.chars ++ num.tail) n a b

theorem Alike.sign :
    Alike (fun a b => Facing n a b (some '-')) Reader.advance Reader.advance fun _ => Signed n := by
  rintro a b (_ | ⟨t, head, within⟩)
  obtain ⟨num, rfl, negative⟩ := Token.exists_number head (.inl rfl)
  simp only [Token.text, Numeral.text, negative, beq_self_eq_true, ↓reduceIte] at within
  exact Alike.advance.weaken (fun _ _ _ within => ⟨num, within⟩) a b within

/-- A number that begins with a digit has no sign. -/
theorem Facing.signed {c : Char} (digit : isDigit c = true) {a b : Cursor}
    (facing : Facing n a b (Option.some c)) : Signed n a b := by
  obtain _ | ⟨t, head, within⟩ := facing
  obtain ⟨num, rfl, negative⟩ := Token.exists_number head (.inr digit)
  have noSign : c ≠ '-' := by
    rintro rfl
    exact absurd digit (by decide)
  simp only [Token.text, Numeral.text, negative, beq_eq_false_iff_ne.mpr noSign,
    Bool.false_eq_true, ↓reduceIte, List.nil_append] at within
  exact ⟨num, within⟩

theorem Alike.number (negative : Bool) :
    Alike (Signed n) (number negative) (number negative) fun _ => Left n := by
  rintro a b ⟨num, within⟩
  exact Alike.number_within negative a b within

theorem Alike.skipNumber : Alike (Signed n) skipNumber skipNumber fun _ => Left n := by
  rintro a b ⟨num, within⟩
  exact Alike.skipNumber_within a b within

end RemoteAttach.Json.Reader
