import Mathlib.Tactic.IntervalCases
import RemoteAttach.Proofs.Text.Blank
import RemoteAttach.Text.Numeral

/-! Numerals written and read back: the digits of a number, in either letter case and after any
number of zeros, are read as that number. -/

namespace RemoteAttach.Text

/-- A numeral of `n`: its digits in either letter case, after any number of zeros. -/
def Spells (base n : Nat) (text : List Char) : Prop :=
  ∃ zeros, text.map Char.toLower = List.replicate zeros '0' ++ Nat.toDigits base n

theorem toNat_toLower (c : Char) :
    c.toLower.toNat = if 0x41 ≤ c.toNat ∧ c.toNat ≤ 0x5A then c.toNat + 0x20 else c.toNat := by
  have upper : (c.val ≥ 'A'.val ∧ c.val ≤ 'Z'.val) ↔ (0x41 ≤ c.toNat ∧ c.toNat ≤ 0x5A) := Iff.rfl
  unfold Char.toLower
  by_cases capital : 0x41 ≤ c.toNat ∧ c.toNat ≤ 0x5A
  · rw [if_pos capital, dif_pos (upper.mpr capital)]
    show (c.val + 0x20).toNat = c.toNat + 0x20
    rw [UInt32.toNat_add, Nat.mod_eq_of_lt]
    · rfl
    · have := capital.2
      simp only [Char.toNat] at this
      simp; omega
  · rw [if_neg capital, dif_neg (mt upper.mp capital)]

/-- A digit is worth the same in either letter case. -/
theorem digit?_toLower (base : Nat) (c : Char) : digit? base c.toLower = digit? base c := by
  have lower := toNat_toLower c
  simp only [digit?, lower]
  congr 1
  grind

theorem digitsAfter_toLower (base value : Nat) (text : List Char) :
    digitsAfter base value (text.map Char.toLower) = digitsAfter base value text := by
  induction text generalizing value with
  | nil => rfl
  | cons c text ih => simp only [List.map_cons, digitsAfter, digit?_toLower, ih]

theorem digit?_digitChar {base n : Nat} (small : base ≤ 16) (below : n < base) :
    digit? base n.digitChar = some n := by
  have code : n.digitChar.toNat = if n < 10 then 0x30 + n else 0x57 + n := by
    have fits : n < 16 := by omega
    interval_cases n <;> rfl
  simp only [digit?, code]
  grind

theorem digitsAfter_append (base value : Nat) (first second : List Char) :
    digitsAfter base value (first ++ second) =
      (digitsAfter base value first).bind fun value => digitsAfter base value second := by
  induction first generalizing value with
  | nil => rfl
  | cons c first ih =>
    simp only [List.cons_append, digitsAfter, ih, Option.bind_eq_bind, Option.bind_assoc]

theorem digitsAfter_toDigits {base : Nat} (large : 1 < base) (small : base ≤ 16) (n : Nat) :
    digitsAfter base 0 (Nat.toDigits base n) = some n := by
  induction n using Nat.strong_induction_on with
  | _ n ih =>
    by_cases below : n < base
    · rw [Nat.toDigits_of_lt_base below]
      simp [digitsAfter, digit?_digitChar small below]
    · have base_le : base ≤ n := Nat.le_of_not_lt below
      have last : n % base < base := Nat.mod_lt n (by omega)
      have front := ih (n / base) (Nat.div_lt_self (by omega) large)
      rw [Nat.toDigits_of_base_le large base_le, digitsAfter_append, front]
      simp [digitsAfter, digit?_digitChar small last, Nat.div_add_mod']

theorem digitsAfter_zeros {base : Nat} (large : 1 < base) (zeros : Nat) :
    digitsAfter base 0 (List.replicate zeros '0') = some 0 := by
  induction zeros with
  | zero => rfl
  | succ zeros ih =>
    have zero : digit? base '0' = some 0 := by simp [digit?]; omega
    simpa [List.replicate_succ, digitsAfter, zero] using ih

theorem Spells.digitsAfter {base n : Nat} {text : List Char} (large : 1 < base)
    (small : base ≤ 16) (spelled : Spells base n text) : digitsAfter base 0 text = some n := by
  obtain ⟨zeros, same⟩ := spelled
  rw [← digitsAfter_toLower, same, digitsAfter_append, digitsAfter_zeros large]
  exact digitsAfter_toDigits large small n

theorem Spells.ne_nil {base n : Nat} {text : List Char} (spelled : Spells base n text) :
    text ≠ [] := by
  rintro rfl
  obtain ⟨zeros, same⟩ := spelled
  exact Nat.toDigits_ne_nil (List.append_eq_nil_iff.mp same.symm).2

/-- The codes of the digits lie in three ranges. -/
theorem range_of_digit? {base value : Nat} {c : Char} (digit : digit? base c = some value) :
    0x30 ≤ c.toNat ∧ c.toNat ≤ 0x39 ∨ 0x61 ≤ c.toNat ∧ c.toNat ≤ 0x66 ∨
      0x41 ≤ c.toNat ∧ c.toNat ≤ 0x46 := by
  have read := (Option.filter_eq_some_iff.mp digit).1
  grind

theorem isBlank_of_digit? {base value : Nat} {c : Char} (digit : digit? base c = some value) :
    isBlank c = false := by
  have range := range_of_digit? digit
  exact isBlank_of_printable (by omega) (by omega)

/-- A numeral that is read has digits only. -/
theorem exists_digit_of_digitsAfter {base value n : Nat} {text : List Char}
    (read : digitsAfter base value text = some n) :
    ∀ c ∈ text, ∃ digit, digit? base c = some digit := by
  induction text generalizing value with
  | nil => exact fun _ there => nomatch there
  | cons c text ih =>
    obtain ⟨digit, first, rest⟩ := Option.bind_eq_some_iff.mp read
    exact List.forall_mem_cons.mpr ⟨⟨digit, first⟩, ih rest⟩

theorem solid_of_digitsAfter {base value n : Nat} {text : List Char}
    (read : digitsAfter base value text = some n) : Solid text := by
  intro c there
  obtain ⟨digit, first⟩ := exists_digit_of_digitsAfter read c there
  exact isBlank_of_digit? first

/-- A numeral has no blanks. -/
theorem Spells.solid {base n : Nat} {text : List Char} (large : 1 < base) (small : base ≤ 16)
    (spelled : Spells base n text) : Solid text :=
  solid_of_digitsAfter (spelled.digitsAfter large small)

/-- A numeral is read as its number if that is below the limit. -/
theorem Spells.numeral? {base limit n : Nat} {text : List Char} (large : 1 < base)
    (small : base ≤ 16) (below : n < limit) (spelled : Spells base n text) :
    numeral? base limit text = some n := by
  have value := spelled.digitsAfter large small
  have unsigned : dropPlus text = text := by
    unfold dropPlus
    split
    · simp [Text.digitsAfter, digit?] at value
    · rfl
  rw [Text.numeral?, unsigned]
  split
  · exact absurd rfl spelled.ne_nil
  · simp [value, below]

theorem Spells.word32? {n : UInt32} {text : List Char} (spelled : Spells 10 n.toNat text) :
    word32? text = some n := by
  rw [Text.word32?, spelled.numeral? (by decide) (by decide) n.toNat_lt_size]
  simp

theorem Spells.hexWord64? {n : UInt64} {text : List Char} (spelled : Spells 16 n.toNat text) :
    hexWord64? text = some n := by
  rw [Text.hexWord64?, spelled.numeral? (by decide) (by decide) n.toNat_lt_size]
  simp

/-! ### Numerals that go on -/

theorem dropPlus_cons (c : Char) (text : List Char) :
    dropPlus (c :: text) = if c = '+' then text else c :: text := by
  unfold dropPlus
  split
  · rename_i same
    obtain ⟨rfl, rfl⟩ := List.cons.inj same
    rfl
  · rename_i digits other
    exact (if_neg fun plus => other text (by rw [plus])).symm

/-- A numeral has digits behind its sign. -/
theorem numeral?_eq_some_iff {base limit n : Nat} {text : List Char} :
    numeral? base limit text = some n ↔
      dropPlus text ≠ [] ∧ digitsAfter base 0 (dropPlus text) = some n ∧ n < limit := by
  rw [numeral?]
  split
  · rename_i none_
    simp [none_]
  · rename_i digits some_
    have there : dropPlus text ≠ [] := some_
    simp [there, Option.filter_eq_some_iff]

/-- A numeral that goes on is worth what its further digits make of its value. -/
theorem numeral?_append {base limit n : Nat} {front : List Char}
    (read : numeral? base limit front = some n) (back : List Char) (m : Nat) :
    numeral? base limit (front ++ back) = some m ↔
      digitsAfter base n back = some m ∧ m < limit := by
  obtain ⟨some_, value, -⟩ := numeral?_eq_some_iff.mp read
  have unsigned : dropPlus (front ++ back) = dropPlus front ++ back := by
    cases front with
    | nil => exact absurd rfl some_
    | cons c front =>
      rw [List.cons_append, dropPlus_cons, dropPlus_cons]
      split <;> rfl
  rw [numeral?_eq_some_iff, unsigned, digitsAfter_append, value, Option.bind_some]
  simp [some_]

/-- Each further digit multiplies the value by the base at least. -/
theorem le_of_digitsAfter {base value n : Nat} {text : List Char}
    (read : digitsAfter base value text = some n) : value * base ^ text.length ≤ n := by
  induction text generalizing value with
  | nil => simp_all [digitsAfter]
  | cons c text ih =>
    obtain ⟨digit, first, rest⟩ := Option.bind_eq_some_iff.mp read
    calc value * base ^ (text.length + 1)
        = value * base * base ^ text.length := by rw [Nat.pow_succ', Nat.mul_assoc]
      _ ≤ (value * base + digit) * base ^ text.length :=
        Nat.mul_le_mul_right _ (Nat.le_add_right _ _)
      _ ≤ n := ih rest

theorem eq_zero_of_digit? {base : Nat} {c : Char} (digit : digit? base c = some 0) : c = '0' := by
  have range := range_of_digit? digit
  have read := (Option.filter_eq_some_iff.mp digit).1
  have code : c.toNat = '0'.toNat := by
    have : '0'.toNat = 0x30 := rfl
    grind
  exact Char.toNat_inj.mp code

/-- Only zeros are worth nothing. -/
theorem eq_zeros_of_digitsAfter {base : Nat} {text : List Char} (large : 1 < base)
    (read : digitsAfter base 0 text = some 0) : ∀ c ∈ text, c = '0' := by
  induction text with
  | nil => exact fun _ there => nomatch there
  | cons c text ih =>
    obtain ⟨digit, first, rest⟩ := Option.bind_eq_some_iff.mp read
    have below := le_of_digitsAfter rest
    have none_ : digit = 0 := by
      have some_ : 0 < base ^ text.length := Nat.pow_pos (by omega)
      have product := Nat.le_zero.mp below
      rw [Nat.mul_eq_zero] at product
      omega
    subst none_
    rw [Nat.zero_mul, Nat.zero_add] at rest
    exact List.forall_mem_cons.mpr ⟨eq_zero_of_digit? first, ih rest⟩

/-- Further digits leave a value as it is only if they are zeros behind a zero, or none. -/
theorem digitsAfter_eq_self_iff {base value : Nat} {text : List Char} (large : 1 < base) :
    digitsAfter base value text = some value ↔
      text = [] ∨ value = 0 ∧ ∀ c ∈ text, c = '0' := by
  constructor
  · intro read
    cases text with
    | nil => exact .inl rfl
    | cons c text =>
      have below := le_of_digitsAfter read
      have twice : 2 ≤ base ^ (text.length + 1) :=
        Nat.le_trans large (Nat.le_self_pow (Nat.succ_ne_zero _) base)
      have none_ : value = 0 := by
        have := Nat.mul_le_mul_left value twice
        rw [List.length_cons] at below
        omega
      subst none_
      exact .inr ⟨rfl, eq_zeros_of_digitsAfter large read⟩
  · rintro (rfl | ⟨rfl, zeros⟩)
    · rfl
    · rw [List.eq_replicate_of_mem zeros]
      exact digitsAfter_zeros large _

/-- A numeral that is cut off keeps its value only if zeros are cut off from a zero, or nothing. -/
theorem numeral?_append_eq_iff {base limit n : Nat} {front : List Char} (large : 1 < base)
    (read : numeral? base limit front = some n) (back : List Char) :
    numeral? base limit (front ++ back) = some n ↔ back = [] ∨ n = 0 ∧ ∀ c ∈ back, c = '0' := by
  have below := (numeral?_eq_some_iff.mp read).2.2
  rw [numeral?_append read, digitsAfter_eq_self_iff large]
  exact and_iff_left below

theorem hexWord64?_eq_some_iff {n : UInt64} {text : List Char} :
    hexWord64? text = some n ↔ numeral? 16 UInt64.size text = some n.toNat := by
  rw [hexWord64?, Option.map_eq_some_iff]
  constructor
  · rintro ⟨m, value, rfl⟩
    rwa [UInt64.toNat_ofNat_of_lt' (numeral?_eq_some_iff.mp value).2.2]
  · exact fun value => ⟨n.toNat, value, UInt64.ofNat_toNat⟩

theorem hexWord64?_append_eq_iff {n : UInt64} {front : List Char}
    (read : hexWord64? front = some n) (back : List Char) :
    hexWord64? (front ++ back) = some n ↔ back = [] ∨ n = 0 ∧ ∀ c ∈ back, c = '0' := by
  have zero : n = 0 ↔ n.toNat = 0 := UInt64.toNat_inj.symm
  rw [hexWord64?_eq_some_iff] at read ⊢
  rw [numeral?_append_eq_iff (by decide) read, zero]

end RemoteAttach.Text
