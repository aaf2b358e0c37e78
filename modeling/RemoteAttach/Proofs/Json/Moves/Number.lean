import RemoteAttach.Proofs.Json.Alike.Number
import RemoteAttach.Proofs.Json.Moves

/-! A number that has been read, or passed over, is a token: a sign, digits without a leading zero,
and perhaps a fraction and an exponent part, each with a digit at least. -/

namespace RemoteAttach.Json

namespace Numeral

theorem text_fraction {n : Numeral} (whole : n.fraction = none ∧ n.exponent = none) (ds : Digits) :
    ({ n with fraction := some ds } : Numeral).text = n.text ++ '.' :: ds.chars := by
  simp [text, tail, whole]

theorem text_exponent {n : Numeral} (noExponent : n.exponent = none) (e : Exponent) :
    ({ n with exponent := some e } : Numeral).text = n.text ++ e.text := by
  simp [text, tail, noExponent]

end Numeral

namespace Reader

variable {α : Type} {P : Condition} {Q : α → Condition} {Φ : List Token → Prop} {c : Char}

/-! ### Digits -/

/-- Moving past the digits ahead, and past no more. -/
theorem Moves.digits {Q : List Char → Condition}
    (h : ∀ behind ds ahead, (∀ c ∈ ds, isDigit c = true) →
      (∀ c ∈ ahead.head?, isDigit c = false) → P behind (ds ++ ahead) → Q ds (behind ++ ds) ahead) :
    Moves P digits Q := by
  intro behind cur x cur' place bounded run
  obtain ⟨rfl, rfl⟩ := Prod.mk.inj (Except.ok.inj run)
  have rest : cur.rest.drop (cur.rest.takeWhile isDigit).length = cur.rest.dropWhile isDigit := by
    have whole := List.takeWhile_append_dropWhile (p := isDigit) (l := cur.rest)
    generalize cur.rest.takeWhile isDigit = ds, cur.rest.dropWhile isDigit = more at whole ⊢
    rw [← whole, List.drop_left]
  rw [← List.takeWhile_append_dropWhile (p := isDigit) (l := cur.rest)] at place
  simp only [rest]
  refine ⟨cur.rest.takeWhile isDigit, List.takeWhile_append_dropWhile.symm, trivial, h _ _ _ ?_ ?_
    place⟩
  · exact fun c there => List.mem_takeWhile_imp there
  · intro c there
    have stop := List.head?_dropWhile_not isDigit cur.rest
    rw [Option.mem_def.mp there] at stop
    simpa using stop

/-- Moving past digits of an exponent, perhaps not all of them, but one at least if the fuel and
what is ahead have one. -/
theorem Moves.exponentDigits {Q : Option Nat → Condition} (value fuel : Nat)
    (h : ∀ behind ds ahead v?, (∀ c ∈ ds, isDigit c = true) → P behind (ds ++ ahead) →
      (ds = [] → fuel = 0 ∨ ∀ c ∈ ahead.head?, isDigit c = false) → Q v? (behind ++ ds) ahead) :
    Moves P (exponentDigits value fuel) Q := by
  induction fuel generalizing P value with
  | zero =>
    refine Moves.pure fun behind ahead place => ?_
    simpa using h behind [] ahead (some value) (by simp) place fun _ => .inl rfl
  | succ fuel ih =>
    -- Without a digit ahead nothing is passed.
    have stays {c? : Option Char} (stop : ∀ c ∈ c?, isDigit c = false) :
        Moves (Ahead P c?) (Pure.pure (some value)) Q := by
      refine Moves.pure fun behind ahead place => ?_
      simpa using h behind [] ahead (some value) (by simp) place.1 fun _ => .inr (place.2 ▸ stop)
    refine Moves.peek fun c? => ?_
    split
    · rename_i c
      split
      · rename_i digit
        refine Moves.bind (Q := fun _ behind ahead => ∃ before, behind = before ++ [c] ∧
          P before (c :: ahead)) (Moves.advance fun behind ahead place => ⟨behind, rfl, place⟩) ?_
        intro _
        dsimp only
        split
        · refine ih _ fun behind ds ahead v? all place _ => ?_
          obtain ⟨before, rfl, place⟩ := place
          simpa using h before (c :: ds) ahead v? (List.forall_mem_cons.mpr ⟨digit, all⟩) place
            (by simp)
        · refine Moves.pure fun behind ahead place => ?_
          obtain ⟨before, rfl, place⟩ := place
          exact h before [c] ahead none (by simpa using digit) place (by simp)
      · rename_i noDigit
        exact stays (by simpa using noDigit)
    · exact stays (by simp)

/-! ### Parts of a number -/

/-- A number with the property is behind, and it may still go on. -/
def InNumber (Φ : List Token → Prop) (holds : Numeral → Prop) : Condition := fun behind ahead =>
  ∃ n, holds n ∧ Inside Φ n.text behind ahead

/-- A number is behind, and the point and some digits of its fraction. -/
def InFraction (Φ : List Token → Prop) (holds : List Char → Prop) : Condition :=
  fun behind ahead => ∃ (n : Numeral) (ds : List Char), n.fraction = none ∧ n.exponent = none ∧
    (∀ c ∈ ds, isDigit c = true) ∧ holds ds ∧ Inside Φ (n.text ++ '.' :: ds) behind ahead

/-- A number is behind, and the mark, the sign and some digits of its exponent part. -/
def InExponent (Φ : List Token → Prop) (holds : List Char → Prop) : Condition :=
  fun behind ahead => ∃ (n : Numeral) (mark : Char) (sign ds : List Char), n.exponent = none ∧
    (mark = 'e' ∨ mark = 'E') ∧ (sign = [] ∨ sign = ['+'] ∨ sign = ['-']) ∧
    (∀ c ∈ ds, isDigit c = true) ∧ holds ds ∧
    Inside Φ (n.text ++ mark :: (sign ++ ds)) behind ahead

/-- A number is behind, and the mark of its exponent part. -/
def AfterMark (Φ : List Token → Prop) : Condition := fun behind ahead =>
  ∃ (n : Numeral) (mark : Char), n.exponent = none ∧ (mark = 'e' ∨ mark = 'E') ∧
    Inside Φ (n.text ++ [mark]) behind ahead

/-- A number with neither fraction nor exponent part. -/
def IsWhole (n : Numeral) : Prop :=
  n.fraction = none ∧ n.exponent = none

theorem InNumber.complete {holds : Numeral → Prop} {behind ahead : List Char}
    (h : InNumber Awaiting holds behind ahead) : Tokens Complete behind ahead := by
  obtain ⟨n, -, place⟩ := h
  exact Inside.tokens (.number n) (fun _ h => h.append_value rfl rfl) place

theorem InFraction.imp {holds holds' : List Char → Prop} (implies : ∀ ds, holds ds → holds' ds)
    {behind ahead : List Char} (h : InFraction Φ holds behind ahead) :
    InFraction Φ holds' behind ahead := by
  obtain ⟨n, ds, noFraction, noExponent, all, property, place⟩ := h
  exact ⟨n, ds, noFraction, noExponent, all, implies ds property, place⟩

theorem InExponent.imp {holds holds' : List Char → Prop} (implies : ∀ ds, holds ds → holds' ds)
    {behind ahead : List Char} (h : InExponent Φ holds behind ahead) :
    InExponent Φ holds' behind ahead := by
  obtain ⟨n, mark, sign, ds, noExponent, markEq, signEq, all, property, place⟩ := h
  exact ⟨n, mark, sign, ds, noExponent, markEq, signEq, all, implies ds property, place⟩

/-- A fraction with a digit at least makes a number. -/
theorem InFraction.inNumber {behind ahead : List Char} (h : InFraction Φ (· ≠ []) behind ahead) :
    InNumber Φ (·.exponent = none) behind ahead := by
  obtain ⟨n, ds, noFraction, noExponent, all, some_, place⟩ := h
  refine ⟨{ n with fraction := some ⟨ds, some_, all⟩ }, noExponent, ?_⟩
  rwa [Numeral.text_fraction ⟨noFraction, noExponent⟩]

/-- An exponent part with a digit at least makes a number. -/
theorem InExponent.complete {behind ahead : List Char}
    (h : InExponent Awaiting (· ≠ []) behind ahead) : Tokens Complete behind ahead := by
  obtain ⟨n, mark, sign, ds, noExponent, markEq, signEq, all, some_, place⟩ := h
  have number : InNumber Awaiting (fun _ => True) behind ahead :=
    ⟨{ n with exponent := some ⟨mark, markEq, sign, signEq, ⟨ds, some_, all⟩⟩ }, trivial,
      by rwa [Numeral.text_exponent noExponent]⟩
  exact number.complete

theorem Inside.append {part behind ahead : List Char} (text : List Char)
    (h : Inside Φ part behind (text ++ ahead)) : Inside Φ (part ++ text) (behind ++ text) ahead := by
  obtain ⟨tokens, whole, rfl, spaced, holds⟩ := h
  exact ⟨tokens, whole, by simp, spaced, holds⟩

/-- Further digits of an exponent. -/
theorem InExponent.append {holds holds' : List Char → Prop} {behind ds ahead : List Char}
    (all : ∀ c ∈ ds, isDigit c = true) (implies : ∀ before, holds before → holds' (before ++ ds))
    (h : InExponent Φ holds behind (ds ++ ahead)) :
    InExponent Φ holds' (behind ++ ds) ahead := by
  obtain ⟨n, mark, sign, before, noExponent, markEq, signEq, allBefore, property, place⟩ := h
  refine ⟨n, mark, sign, before ++ ds, noExponent, markEq, signEq,
    List.forall_mem_append.mpr ⟨allBefore, all⟩, implies before property, ?_⟩
  simpa using place.append ds

/-- Moving past the mark of an exponent part. -/
theorem Moves.exponentMark {holds : Numeral → Prop} (none_ : ∀ n, holds n → n.exponent = none)
    (mark : c = 'e' ∨ c = 'E') :
    Moves (Ahead (InNumber Φ holds) (some c)) Reader.advance fun _ => AfterMark Φ :=
  Moves.advance fun _ _ ⟨n, property, place⟩ =>
    ⟨n, c, none_ n property, mark, place.append [c]⟩

/-- An exponent without sign. -/
theorem AfterMark.unsigned {behind ahead : List Char} (h : AfterMark Φ behind ahead) :
    InExponent Φ (· = []) behind ahead := by
  obtain ⟨n, mark, noExponent, markEq, place⟩ := h
  exact ⟨n, mark, [], [], noExponent, markEq, .inl rfl, by simp, rfl, place⟩

/-- Moving past the sign of an exponent. -/
theorem Moves.exponentSign (sign : c = '+' ∨ c = '-') :
    Moves (Ahead (AfterMark Φ) (some c)) Reader.advance fun _ => InExponent Φ (· = []) := by
  refine Moves.advance ?_
  rintro behind ahead ⟨n, mark, noExponent, markEq, place⟩
  refine ⟨n, mark, [c], [], noExponent, markEq, .inr (by simpa using sign), by simp, rfl, ?_⟩
  simpa using place.append [c]

/-- At the end of a number its value is made. -/
theorem Moves.scaled (complete : ∀ behind ahead, P behind ahead → Tokens Complete behind ahead)
    (negative : Bool) (significand : Nat) (exponent : Int) :
    Moves P (scaled negative significand exponent) fun _ => Tokens Complete := by
  unfold Reader.scaled
  split
  · exact Moves.pure complete
  · exact Moves.failHere _

theorem Moves.exponentValue (negative : Bool) (significand : Nat) (exponent : Int) (down : Bool) :
    Moves (InExponent Awaiting (· = [])) (exponentValue negative significand exponent down)
      fun _ => Tokens Complete := by
  refine Moves.peek fun c? => ?_
  split
  · exact Moves.failHere _
  · split
    · rename_i digit
      refine Moves.bound fun fuel => ?_
      refine Moves.bind (Q := fun _ => InExponent Awaiting (· ≠ [])) ?_ fun value? => ?_
      · refine Moves.exponentDigits 0 fuel fun behind ds ahead v? all place stop => ?_
        obtain ⟨⟨place, head⟩, enough⟩ := place
        refine place.append all ?_
        rintro _ rfl rfl
        -- The digit that was seen is still ahead, and the fuel is enough to take it.
        rw [List.nil_append] at head enough
        rcases stop rfl with rfl | stop
        · rw [List.eq_nil_of_length_eq_zero (Nat.le_zero.mp enough)] at head
          cases head
        · rw [stop _ head] at digit
          cases digit
      · split
        · exact Moves.scaled (fun _ _ => InExponent.complete) _ _ _
        · split
          · exact Moves.failHere _
          · refine Moves.bind (Q := fun _ => InExponent Awaiting (· ≠ [])) (Moves.digits ?_) ?_
            · exact fun behind ds ahead all _ place =>
                place.append all fun _ some_ => List.append_ne_nil_of_left_ne_nil some_ ds
            · exact fun _ => Moves.pure fun _ _ => InExponent.complete
    · exact Moves.failAhead _

theorem Moves.exponentPart {holds : Numeral → Prop} (none_ : ∀ n, holds n → n.exponent = none)
    (mark : c = 'e' ∨ c = 'E') (negative : Bool) (significand : Nat) (exponent : Int) :
    Moves (Ahead (InNumber Awaiting holds) (some c)) (exponentPart negative significand exponent)
      fun _ => Tokens Complete := by
  rw [exponentPart_eq]
  refine (Moves.exponentMark none_ mark).bind fun _ => Moves.peek fun c? => ?_
  split
  · exact (Moves.exponentSign (.inl rfl)).bind fun _ => Moves.exponentValue _ _ _ _
  · exact (Moves.exponentSign (.inr rfl)).bind fun _ => Moves.exponentValue _ _ _ _
  · exact (Moves.exponentValue _ _ _ _).strengthen fun _ _ place => place.1.unsigned

theorem Moves.withExponent {holds : Numeral → Prop} (none_ : ∀ n, holds n → n.exponent = none)
    (negative : Bool) (significand : Nat) (exponent : Int) :
    Moves (InNumber Awaiting holds) (withExponent negative significand exponent)
      fun _ => Tokens Complete := by
  refine Moves.peek fun c? => ?_
  split
  · exact Moves.exponentPart none_ (.inl rfl) _ _ _
  · exact Moves.exponentPart none_ (.inr rfl) _ _ _
  · exact Moves.scaled (fun _ _ place => place.1.complete) _ _ _

/-- Moving past the point of a fraction. -/
theorem Moves.point :
    Moves (Ahead (InNumber Φ IsWhole) (some '.')) Reader.advance fun _ => InFraction Φ (· = []) :=
  Moves.advance fun _ _ ⟨n, whole, place⟩ =>
    ⟨n, [], whole.1, whole.2, by simp, rfl, place.append ['.']⟩

/-- Moving past the digits of a fraction. -/
theorem Moves.fractionDigits :
    Moves (InFraction Φ (· = [])) Reader.digits fun ds => InFraction Φ (· = ds) := by
  refine Moves.digits ?_
  rintro behind ds ahead all - ⟨n, _, noFraction, noExponent, -, rfl, place⟩
  refine ⟨n, ds, noFraction, noExponent, all, rfl, ?_⟩
  simpa using place.append ds

theorem Moves.fraction (negative : Bool) (significand : Nat) (exponent : Int) :
    Moves (Ahead (InNumber Awaiting IsWhole) (some '.')) (fraction negative significand exponent)
      fun _ => Tokens Complete := by
  refine Moves.point.bind fun _ => Moves.fractionDigits.bind fun ds => ?_
  split
  · refine Moves.peek fun c? => ?_
    split
    · exact Moves.failHere _
    · exact Moves.failAhead _
  · rename_i some_
    refine (Moves.withExponent (fun _ => id) _ _ _).strengthen fun _ _ place => ?_
    exact InFraction.inNumber (place.imp fun _ eq => by rw [eq]; simpa using some_)

theorem Moves.afterDigits (negative : Bool) (significand raised : Nat) :
    Moves (InNumber Awaiting IsWhole) (afterDigits negative significand raised)
      fun _ => Tokens Complete := by
  refine Moves.peek fun c? => ?_
  split
  · exact Moves.fraction _ _ _
  · exact Moves.exponentPart (fun _ => And.right) (.inl rfl) _ _ _
  · exact Moves.exponentPart (fun _ => And.right) (.inr rfl) _ _ _
  · refine Moves.strengthen (P := Tokens Complete) ?_ fun _ _ place => place.1.complete
    split
    · exact Moves.scaled (fun _ _ => id) _ _ _
    · split
      · exact Moves.pure fun _ _ => id
      · split
        · exact Moves.pure fun _ _ => id
        · exact Moves.scaled (fun _ _ => id) _ _ _

/-- The sign of a number is behind, if it has one. -/
def AfterSign (Φ : List Token → Prop) : Condition := fun behind ahead =>
  ∃ negative : Bool, Inside Φ (if negative then ['-'] else []) behind ahead

theorem AfterSign.unsigned {behind ahead : List Char} (h : Tokens Φ behind ahead) :
    AfterSign Φ behind ahead := by
  obtain ⟨tokens, spaced, holds⟩ := h
  exact ⟨false, tokens, behind, by simp, spaced, holds⟩

/-- Moving past the sign of a number. -/
theorem Moves.sign : Moves (Ahead (Tokens Φ) (some '-')) Reader.advance fun _ => AfterSign Φ :=
  Moves.first.weaken fun _ _ _ place => ⟨true, place⟩

/-- Digits without a leading zero after the sign of a number. -/
theorem AfterSign.append {behind ahead : List Char} (ds : Digits)
    (canonical : ds.chars.head? = some '0' → ds.chars = ['0'])
    (h : AfterSign Φ behind (ds.chars ++ ahead)) :
    InNumber Φ IsWhole (behind ++ ds.chars) ahead := by
  obtain ⟨negative, place⟩ := h
  refine ⟨⟨negative, ds, canonical, none, none⟩, ⟨rfl, rfl⟩, ?_⟩
  simpa [Numeral.text, Numeral.tail] using place.append ds.chars

theorem Moves.zero :
    Moves (Ahead (AfterSign Φ) (some '0')) Reader.advance fun _ => InNumber Φ IsWhole :=
  Moves.advance fun _ _ place =>
    AfterSign.append ⟨['0'], by simp, by simp; decide⟩ (fun _ => rfl) place

/-- Moving past the digits of a number that does not begin with a zero. -/
theorem Moves.wholeDigits {c? : Option Char} (noZero : c? ≠ some '0') :
    Moves (Ahead (AfterSign Φ) c?) Reader.digits fun ds behind ahead =>
      (ds = [] → ∀ c ∈ c?, isDigit c = false) ∧
        (ds ≠ [] → InNumber Φ IsWhole behind ahead) := by
  refine Moves.digits fun behind ds ahead all stop ⟨place, head⟩ => ⟨?_, fun some_ => ?_⟩
  · rintro rfl
    exact head ▸ stop
  · refine AfterSign.append ⟨ds, some_, all⟩ (fun zero => absurd ?_ noZero) place
    rwa [List.head?_append_of_ne_nil _ some_, zero, eq_comm] at head

/-- A number that has been read, after its sign. -/
theorem Moves.number (negative : Bool) :
    Moves (AfterSign Awaiting) (number negative) fun _ => Tokens Complete := by
  refine Moves.peek fun c? => ?_
  split
  · exact Moves.failHere _
  · refine Moves.zero.bind fun _ => Moves.peek fun c? => ?_
    split
    · split
      · exact Moves.failAhead _
      · exact (Moves.afterDigits _ _ _).forget
    · exact (Moves.afterDigits _ _ _).forget
  · rename_i noZero
    split
    · rename_i digit
      refine (Moves.wholeDigits (by simpa using noZero)).bind fun ds => ?_
      refine (Moves.afterDigits _ _ _).strengthen fun _ _ place => place.2 fun empty => ?_
      simp [place.1 empty _ rfl] at digit
    · exact Moves.failAhead _

/-! ### Numbers that nobody asks for -/

theorem Moves.skipExponent {holds : Numeral → Prop} (none_ : ∀ n, holds n → n.exponent = none)
    (mark : c = 'e' ∨ c = 'E') :
    Moves (Ahead (InNumber Awaiting holds) (some c)) skipExponent fun _ => Tokens Complete := by
  refine (Moves.exponentMark none_ mark).bind fun _ => ?_
  have value : Moves (InExponent Awaiting (· = [])) (Reader.digits >>= fun ds =>
      if ds.isEmpty then Reader.failAhead .invalidNumber else Pure.pure ())
      fun _ => Tokens Complete := by
    refine Moves.bind (Q := fun ds => InExponent Awaiting (· = ds)) (Moves.digits ?_) fun ds => ?_
    · exact fun behind ds ahead all _ place => place.append all (by simp)
    · split
      · exact Moves.failAhead _
      · rename_i some_
        refine Moves.pure fun _ _ place => InExponent.complete (place.imp fun _ eq => ?_)
        rw [eq]
        simpa using some_
  refine Moves.peek fun c? => ?_
  split
  · exact (Moves.exponentSign (.inl rfl)).bind fun _ => value
  · exact (Moves.exponentSign (.inr rfl)).bind fun _ => value
  · exact value.strengthen fun _ _ place => place.1.unsigned

theorem Moves.skipFraction : Moves (InNumber Awaiting IsWhole) skipFraction
    fun _ => Tokens Complete := by
  refine Moves.peek fun c? => ?_
  split
  · refine Moves.point.bind fun _ => Moves.fractionDigits.bind fun ds => ?_
    split
    · exact Moves.failAhead _
    · rename_i some_
      refine Moves.strengthen (P := InNumber Awaiting (·.exponent = none)) ?_ fun _ _ place =>
        InFraction.inNumber (place.imp fun _ eq => by rw [eq]; simpa using some_)
      refine Moves.peek fun c? => ?_
      split
      · exact Moves.skipExponent (fun _ => id) (.inl rfl)
      · exact Moves.skipExponent (fun _ => id) (.inr rfl)
      · exact Moves.pure fun _ _ place => place.1.complete
  · exact Moves.skipExponent (fun _ => And.right) (.inl rfl)
  · exact Moves.skipExponent (fun _ => And.right) (.inr rfl)
  · exact Moves.pure fun _ _ place => place.1.complete

/-- A number that has been passed over, after its sign. -/
theorem Moves.skipNumber : Moves (AfterSign Awaiting) skipNumber fun _ => Tokens Complete := by
  refine Moves.peek fun c? => ?_
  split
  · refine Moves.zero.bind fun _ => Moves.peek fun c? => ?_
    split
    · split
      · exact Moves.failAhead _
      · exact Moves.skipFraction.forget
    · exact Moves.pure fun _ _ place => place.1.complete
  · rename_i noZero
    refine (Moves.wholeDigits noZero).bind fun ds => ?_
    split
    · exact Moves.failAhead _
    · rename_i some_
      exact Moves.skipFraction.strengthen fun _ _ place => place.2 (by simpa using some_)

end Reader

end RemoteAttach.Json
