import RemoteAttach.Proofs.Json.Runs

/-! String literals and whole numbers that have been written are read as what they were. -/

namespace RemoteAttach.Json.Reader

variable {α : Type} {text rest : List Char} {x : α}

/-! ### String literals -/

theorem Runs.escape_letter {letter c : Char} (escaped : escaped? letter = some c)
    (rest : List Char) : Runs escape (letter :: rest) c rest := by
  refine Runs.peek ?_
  simp only [List.head?_cons]
  split
  · exact absurd ‹_› (by simp)
  · rename_i same
    obtain rfl := Option.some.inj same
    exact absurd escaped (by simp [Reader.escaped?])
  · rename_i same
    obtain rfl := Option.some.inj same
    rw [escaped]
    exact (Runs.advance _ _).bind (Runs.pure _ _)

/-- The code that the next four characters spell. -/
theorem Runs.hexCode {a b c d : Char} {code : Nat}
    (digits : Text.digitsAfter 16 0 [a, b, c, d] = some code) (rest : List Char) :
    Runs hexCode (a :: b :: c :: d :: rest) code rest := by
  rintro ⟨ahead, position, bound⟩ rfl bounded
  refine ⟨(⟨a :: b :: c :: d :: rest, position, bound⟩ : Cursor).advance.advance.advance.advance,
    ?_, rfl, ?_⟩
  · simp only [Reader.hexCode, digits]
  · simp only [List.length_cons] at bounded
    show rest.length ≤ bound
    omega

/-- The two last digits of the code of a control character. -/
theorem exists_controlDigits {code : Nat} (control : code < 0x20) :
    ∃ a b, List.replicate (2 - (Text.hexDigits code).length) '0' ++ Text.hexDigits code = [a, b] ∧
      Text.digitsAfter 16 0 ['0', '0', a, b] = some code := by
  interval_cases code <;> exact ⟨_, _, rfl, rfl⟩

theorem Runs.escape_control {c : Char} (control : c.toNat < 0x20) (rest : List Char) :
    Runs escape ('u' :: '0' :: '0' :: (List.replicate (2 - (Text.hexDigits c.toNat).length) '0' ++
      Text.hexDigits c.toNat ++ rest)) c rest := by
  obtain ⟨a, b, written, digits⟩ := exists_controlDigits control
  rw [written]
  refine Runs.peek ((Runs.advance _ _).bind ((Runs.hexCode digits rest).bind ?_))
  have low : isTrailing c.toNat = false ∧ isLeading c.toNat = false := by
    simp only [isTrailing, isLeading, Bool.and_eq_false_iff, decide_eq_false_iff_not]
    omega
  simp only [low, Bool.false_eq_true, ↓reduceIte, Char.ofNat_toNat]
  exact Runs.pure _ _

/-- A character of a literal is read as it was. -/
theorem Runs.literalChar (c : Char) {fuel : Nat} {read more y : List Char}
    (h : Runs (literalAfter fuel (c :: read)) more y rest) :
    Runs (literalAfter (fuel + 1) read) (literalChar c ++ more) y rest := by
  have escaped {letter : Char} (escaped : escaped? letter = some c) :
      Runs (Reader.literalAfter (fuel + 1) read) ('\\' :: letter :: more) y rest :=
    Runs.peek ((Runs.advance _ _).bind ((Runs.escape_letter escaped more).bind h))
  unfold Json.literalChar
  split
  · rename_i mark
    simp only [Bool.or_eq_true, decide_eq_true_eq] at mark
    rcases mark with rfl | rfl
    · exact escaped rfl
    · exact escaped rfl
  · split
    · rename_i same
      subst same
      exact escaped rfl
    · split
      · rename_i same
        subst same
        exact escaped rfl
      · split
        · rename_i same
          subst same
          exact escaped rfl
        · split
          · rename_i same
            subst same
            exact escaped rfl
          · split
            · rename_i same
              subst same
              exact escaped rfl
            · split
              · rename_i control
                have unicode := Runs.bind (f := fun c => Reader.literalAfter fuel (c :: read))
                  (Runs.escape_control control more) h
                exact Runs.peek ((Runs.advance _ _).bind (by simpa using unicode))
              · rename_i plain _ _ _ _ _ notControl
                simp only [Bool.or_eq_true, decide_eq_true_eq, not_or] at plain
                refine Runs.peek ?_
                simp only [List.cons_append, List.nil_append, List.head?_cons]
                split
                · exact absurd ‹_› (by simp)
                · exact absurd (Option.some.inj ‹_›) plain.1
                · exact absurd (Option.some.inj ‹_›) plain.2
                · rename_i same
                  obtain rfl := Option.some.inj same
                  rw [if_neg notControl]
                  exact (Runs.advance _ _).bind h

theorem Runs.literalAfter (chars : List Char) {fuel : Nat} (enough : chars.length < fuel)
    (read rest : List Char) :
    Runs (literalAfter fuel read) (chars.flatMap Json.literalChar ++ '"' :: rest)
      (read.reverse ++ chars) rest := by
  induction chars generalizing fuel read with
  | nil =>
    obtain ⟨fuel, rfl⟩ : ∃ m, fuel = m + 1 := ⟨fuel - 1, by omega⟩
    rw [List.append_nil]
    exact Runs.peek ((Runs.advance _ _).bind (Runs.pure _ _))
  | cons c chars ih =>
    obtain ⟨fuel, rfl⟩ : ∃ m, fuel = m + 1 := ⟨fuel - 1, by simp at enough; omega⟩
    have further := ih (by simpa using enough) (c :: read)
    rw [List.flatMap_cons, List.append_assoc]
    exact Runs.literalChar c (by simpa using further)

theorem length_le_literal (chars : List Char) :
    chars.length ≤ (chars.flatMap Json.literalChar).length := by
  induction chars with
  | nil => simp
  | cons c chars ih =>
    have some_ : 0 < (Json.literalChar c).length := by
      unfold Json.literalChar
      repeat' split
      all_goals simp
    rw [List.flatMap_cons, List.length_append, List.length_cons]
    omega

/-- A literal is read as the text that it was written for, after its opening quote. -/
theorem Runs.literal (s : String) (rest : List Char) :
    Runs literal (s.toList.flatMap Json.literalChar ++ '"' :: rest) s rest := by
  refine Runs.bound fun bound enough => ?_
  have few := length_le_literal s.toList
  rw [List.length_append] at enough
  have chars : Runs (Reader.literalAfter (bound + 1) []) _ _ rest :=
    Runs.literalAfter s.toList (by omega) [] rest
  simpa using chars.andThen String.ofList

/-! ### Whole numbers -/

theorem digitValue_eq {c : Char} {d : Nat} (digit : Text.digit? 10 c = some d) :
    isDigit c = true ∧ digitValue c = d := by
  have range : 0x30 ≤ c.toNat ∧ c.toNat ≤ 0x39 ∧ d = c.toNat - 0x30 := by
    simp only [Text.digit?, Option.filter_eq_some_iff, decide_eq_true_eq] at digit
    grind
  refine ⟨?_, range.2.2.symm⟩
  simpa [isDigit, Char.le_def, UInt32.le_iff_toNat_le] using ⟨range.1, range.2.1⟩

theorem le_of_digitsAfter {ds : List Char} {value total : Nat}
    (digits : Text.digitsAfter 10 value ds = some total) : value ≤ total := by
  induction ds generalizing value with
  | nil => exact (Option.some.inj digits).le
  | cons c ds ih =>
    obtain ⟨d, -, further⟩ := Option.bind_eq_some_iff.mp digits
    have := ih further
    omega

theorem isDigit_of_digitsAfter {ds : List Char} {value total : Nat}
    (digits : Text.digitsAfter 10 value ds = some total) : ∀ c ∈ ds, isDigit c = true := by
  induction ds generalizing value with
  | nil => simp
  | cons c ds ih =>
    obtain ⟨d, digit, further⟩ := Option.bind_eq_some_iff.mp digits
    exact List.forall_mem_cons.mpr ⟨(digitValue_eq digit).1, ih further⟩

/-- Digits whose value fits 64 bits are all gathered. -/
theorem gather_eq {ds : List Char} {value total : Nat}
    (digits : Text.digitsAfter 10 value ds = some total) (fits : total < UInt64.size) :
    gather value ds = (total, 0) := by
  induction ds generalizing value with
  | nil => rw [gather, Option.some.inj digits]
  | cons c ds ih =>
    obtain ⟨d, digit, further⟩ := Option.bind_eq_some_iff.mp digits
    have next := le_of_digitsAfter further
    simp only [gather, (digitValue_eq digit).2]
    rw [if_pos (by omega), ih further]

/-- Only zero is written with a zero first. -/
theorem head_toDigits {n : Nat} (head : (Nat.toDigits 10 n).head? = some '0') : n = 0 := by
  induction n using Nat.strong_induction_on with
  | _ n ih =>
    by_cases small : n < 10
    · rw [Nat.toDigits_of_lt_base small] at head
      interval_cases n <;> first | rfl | exact absurd head (by decide)
    · rw [Nat.toDigits_of_base_le (by decide) (by omega), List.head?_append_of_ne_nil _
        Nat.toDigits_ne_nil] at head
      have := ih (n / 10) (by omega) head
      omega

theorem exists_toDigits_eq (n : Nat) :
    ∃ d ds, Nat.toDigits 10 n = d :: ds ∧ isDigit d = true := by
  have value := Text.digitsAfter_toDigits (by decide : 1 < 10) (by decide) n
  obtain ⟨d, ds, eq⟩ := List.exists_cons_of_ne_nil (Nat.toDigits_ne_nil : Nat.toDigits 10 n ≠ [])
  exact ⟨d, ds, eq, isDigit_of_digitsAfter value d (by simp [eq])⟩

/-- A whole number ends where nothing continues it. -/
theorem Runs.afterDigits {negative : Bool} {significand : Nat} {rest : List Char}
    (ends : Ends rest.head?) (sign : negative = true → significand ≠ 0 ∧
      2 * significand ≤ UInt64.size) :
    Runs (afterDigits negative significand 0) rest
      (.integer (if negative then -significand else significand)) rest := by
  obtain ⟨point, small, capital⟩ := ne_of_ends ends
  refine Runs.peek ?_
  generalize rest.head? = c? at point small capital
  split
  · exact absurd rfl point
  · exact absurd rfl small
  · exact absurd rfl capital
  · rw [if_neg (by simp)]
    cases negative with
    | false => exact Runs.pure _ _
    | true =>
      obtain ⟨nonzero, fits⟩ := sign rfl
      simp only [nonzero, fits, Bool.not_true, Bool.false_eq_true, ↓reduceIte, ne_eq,
        not_false_eq_true, decide_true, Bool.and_self]
      exact Runs.pure _ _

theorem Runs.digits {ds rest : List Char} (all : ∀ c ∈ ds, isDigit c = true)
    (stop : ∀ c ∈ rest.head?, isDigit c = false) : Runs digits (ds ++ rest) ds rest := by
  rintro ⟨ahead, position, bound⟩ rfl bounded
  have taken := takeWhile_isDigit all stop
  unfold Reader.digits
  dsimp only
  rw [taken]
  refine ⟨_, rfl, ?_, ?_⟩
  · exact List.drop_left
  · rw [List.length_append] at bounded
    exact (Nat.le_add_left _ _).trans bounded

/-- The digits of a number are read as that number, with the sign before them. -/
theorem Runs.number (negative : Bool) (n : Nat) {rest : List Char} (ends : Ends rest.head?)
    (fits : n < UInt64.size) (sign : negative = true → n ≠ 0 ∧ 2 * n ≤ UInt64.size) :
    Runs (number negative) (Nat.toDigits 10 n ++ rest)
      (.integer (if negative then -n else n)) rest := by
  have value := Text.digitsAfter_toDigits (by decide : 1 < 10) (by decide) n
  have all := isDigit_of_digitsAfter value
  have stop : ∀ c ∈ rest.head?, isDigit c = false := fun c there => (ends c there).1
  have after := Runs.afterDigits ends sign
  obtain ⟨c, ds, eq⟩ := List.exists_cons_of_ne_nil (Nat.toDigits_ne_nil : Nat.toDigits 10 n ≠ [])
  refine Runs.peek ?_
  rw [eq, List.cons_append, List.head?_cons]
  split
  · exact absurd ‹_› (by simp)
  · rename_i zero
    obtain rfl := Option.some.inj zero
    obtain rfl : n = 0 := head_toDigits (by rw [eq]; rfl)
    obtain rfl : ds = [] := (List.cons.inj eq).2.symm
    rw [List.nil_append]
    refine (Runs.advance _ _).bind (Runs.peek ?_)
    cases head : rest.head? with
    | none => exact after
    | some c =>
      simp only [stop c head, Bool.false_eq_true, ↓reduceIte]
      exact after
  · rename_i same
    obtain rfl := Option.some.inj same
    rw [if_pos (all c (by rw [eq]; simp)), ← List.cons_append, ← eq]
    refine (Runs.digits all stop).bind ?_
    rw [gather_eq value fits]
    exact after

/-- The zero with a minus sign is read as itself, after the sign. -/
theorem Runs.negative_zero {rest : List Char} (ends : Ends rest.head?) :
    Runs (Reader.number true) (['0', '.', '0'] ++ rest) (.decimal ⟨true, .zero⟩) rest := by
  obtain ⟨-, small, capital⟩ := ne_of_ends ends
  have stop : ∀ c ∈ rest.head?, isDigit c = false := fun c there => (ends c there).1
  have fraction : Runs (Reader.fraction true 0 0) ('.' :: (['0'] ++ rest))
      (.decimal ⟨true, .zero⟩) rest := by
    have zero : ∀ c ∈ ['0'], isDigit c = true := List.forall_mem_singleton.mpr (by decide)
    refine (Runs.advance _ _).bind ((Runs.digits zero stop).bind (Runs.peek ?_))
    generalize rest.head? = c? at small capital
    split
    · exact absurd rfl small
    · exact absurd rfl capital
    · exact Runs.pure _ _
  exact Runs.peek ((Runs.advance _ _).bind (Runs.peek (Runs.peek fraction)))

end RemoteAttach.Json.Reader
