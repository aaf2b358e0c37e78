import RemoteAttach.Proofs.Json.Commented
import RemoteAttach.Proofs.Json.Runs.Value

/-! Texts of values that are written without blanks. There is nothing in them to strip, whatever
their strings hold. -/

namespace RemoteAttach.Json.Commented

open Reader (isDigit)

/-! ### String literals -/

theorem exists_parts_of_literalChar (c : Char) :
    ∃ parts : List LiteralPart, parts.flatMap LiteralPart.text = literalChar c := by
  unfold literalChar
  split
  · exact ⟨[.escape c], rfl⟩
  split
  · exact ⟨[.escape 'n'], rfl⟩
  split
  · exact ⟨[.escape 'r'], rfl⟩
  split
  · exact ⟨[.escape 't'], rfl⟩
  split
  · exact ⟨[.escape 'b'], rfl⟩
  split
  · exact ⟨[.escape 'f'], rfl⟩
  split
  · rename_i control
    obtain ⟨a, b, written, digits⟩ := Reader.exists_controlDigits control
    obtain ⟨parts, eq⟩ := exists_parts_of_digitsAfter digits
    exact ⟨.escape 'u' :: parts, by rw [List.append_assoc, written, List.flatMap_cons, eq]; rfl⟩
  · rename_i plain _ _ _ _ _ _
    simp only [Bool.or_eq_true, decide_eq_true_eq, not_or] at plain
    exact ⟨[.char c plain], rfl⟩

theorem exists_parts_of_chars (chars : List Char) :
    ∃ parts : List LiteralPart, parts.flatMap LiteralPart.text = chars.flatMap literalChar := by
  induction chars with
  | nil => exact ⟨[], rfl⟩
  | cons c chars ih =>
    obtain ⟨first, eq⟩ := exists_parts_of_literalChar c
    obtain ⟨parts, eqs⟩ := ih
    exact ⟨first ++ parts, by rw [List.flatMap_append, List.flatMap_cons, eq, eqs]⟩

theorem settles_literal (text : String) : Settles (literal text) (literal text) := by
  obtain ⟨parts, eq⟩ := exists_parts_of_chars text.toList
  have settles := Settles.literal parts
  rwa [Token.text, eq] at settles

/-! ### Numbers -/

theorem ordinary_of_mem_toDigits {n : Nat} {c : Char} (there : c ∈ Nat.toDigits 10 n) :
    Ordinary c := by
  have value := Text.digitsAfter_toDigits (by decide : 1 < 10) (by decide) n
  exact ordinary_of_isDigit (Reader.isDigit_of_digitsAfter value c there)

theorem ordinary_zero_point : ∀ c ∈ ['0', '.'], Ordinary c :=
  List.forall_mem_cons.mpr ⟨by decide, List.forall_mem_singleton.mpr (by decide)⟩

theorem ordinary_positional (x : Decimal.Digits) : ∀ c ∈ x.positional, Ordinary c := by
  have digits : ∀ c ∈ Nat.toDigits 10 x.digits, Ordinary c := fun c => ordinary_of_mem_toDigits
  have zeros (n : Nat) : ∀ c ∈ List.replicate n '0', Ordinary c := by
    intro c there
    rw [List.eq_of_mem_replicate there]
    decide
  unfold Decimal.Digits.positional
  dsimp only
  split
  · exact List.forall_mem_append.mpr ⟨List.forall_mem_append.mpr ⟨digits, zeros _⟩,
      List.forall_mem_cons.mpr ⟨by decide, zeros 1⟩⟩
  · split
    · exact List.forall_mem_append.mpr ⟨fun c there => digits c (List.mem_of_mem_take there),
        List.forall_mem_cons.mpr ⟨by decide, fun c there => digits c (List.mem_of_mem_drop there)⟩⟩
    · exact List.forall_mem_append.mpr
        ⟨List.forall_mem_append.mpr ⟨ordinary_zero_point, zeros _⟩, digits⟩

theorem ordinary_scientific (x : Decimal.Digits) : ∀ c ∈ x.scientific, Ordinary c := by
  have digits (n : Nat) : ∀ c ∈ Nat.toDigits 10 n, Ordinary c := fun c => ordinary_of_mem_toDigits
  unfold Decimal.Digits.scientific
  dsimp only
  refine List.forall_mem_append.mpr ⟨List.forall_mem_append.mpr
    ⟨fun c there => digits _ c (List.mem_of_mem_take there), ?_⟩, ?_⟩
  · split
    · nofun
    · exact List.forall_mem_cons.mpr
        ⟨by decide, fun c there => digits _ c (List.mem_of_mem_drop there)⟩
  · refine List.forall_mem_cons.mpr ⟨by decide, List.forall_mem_cons.mpr ⟨?_, digits _⟩⟩
    split <;> decide

theorem text_ne_nil (x : Decimal.Digits) : x.text ≠ [] := by
  unfold Decimal.Digits.text Decimal.Digits.positional Decimal.Digits.scientific
  dsimp only
  repeat' split
  all_goals simp

/-- A number of either form is kept as it is written. -/
theorem settles_number (n : Number) : Settles n.text n.text := by
  cases n with
  | integer value =>
    rw [Number.text_integer]
    refine Settles.ordinary (by simp [Nat.toDigits_ne_nil]) (List.forall_mem_append.mpr ⟨?_, ?_⟩)
    · split
      · exact List.forall_mem_singleton.mpr (by decide)
      · nofun
    · exact fun c there => ordinary_of_mem_toDigits there
  | decimal value =>
    have shortest : ∀ c ∈ value.magnitude.shortest.text, Ordinary c := by
      unfold Decimal.Digits.text
      dsimp only
      split
      · exact ordinary_positional _
      · exact ordinary_scientific _
    have magnitude : Settles
        (if value.magnitude.mantissa = 0 then ['0', '.', '0'] else value.magnitude.shortest.text)
        (if value.magnitude.mantissa = 0 then ['0', '.', '0']
          else value.magnitude.shortest.text) := by
      split
      · exact (Settles.ordinary (by decide) ordinary_zero_point).append (step_ordinary (by decide))
      · exact Settles.ordinary (text_ne_nil _) shortest
    have minus : Settles ['-'] ['-'] := step_ordinary (by decide)
    rw [Number.text, Decimal.Binary64.text]
    split
    · exact minus.append magnitude
    · exact magnitude

/-! ### Values -/

/-- Items, divided by commas, are kept if each of them is. -/
theorem settles_renderItems {item : Json} {rest : List Json}
    (each : ∀ v ∈ item :: rest, Settles v.render v.render) :
    Settles (renderItems (item :: rest)) (renderItems (item :: rest)) := by
  induction rest generalizing item with
  | nil => exact each item List.mem_cons_self
  | cons next rest ih =>
    obtain ⟨first, each⟩ := List.forall_mem_cons.mp each
    exact first.append (ih each).comma

theorem settles_renderMembers {member : String × Json} {rest : List (String × Json)}
    (each : ∀ m ∈ member :: rest, Settles m.2.render m.2.render) :
    Settles (renderMembers (member :: rest)) (renderMembers (member :: rest)) := by
  have colon : Settles [':'] [':'] := step_ordinary (by decide)
  have text {m : String × Json} (h : Settles m.2.render m.2.render) :
      Settles (memberText m) (memberText m) := (settles_literal m.1).append (colon.append h)
  induction rest generalizing member with
  | nil => exact text (each member List.mem_cons_self)
  | cons next rest ih =>
    obtain ⟨first, each⟩ := List.forall_mem_cons.mp each
    exact (text first).append (ih each).comma

mutual

/-- Values are kept as they are written. -/
theorem settles_render : (v : Json) → Settles v.render v.render
  | .null => Settles.keyword .null
  | .bool true => Settles.keyword (.truth true)
  | .bool false => Settles.keyword (.truth false)
  | .number n => settles_number n
  | .string text => settles_literal text
  | .array [] => (Settles.opening .array).close .array none
  | .array (item :: rest) => by
    have inside := (Settles.opening .array).append
      (settles_renderItems (settles_items (item :: rest)))
    exact inside.close .array none
  | .object [] => (Settles.opening .object).close .object none
  | .object (member :: rest) => by
    have inside := (Settles.opening .object).append
      (settles_renderMembers (settles_members (member :: rest)))
    exact inside.close .object none

theorem settles_items : (items : List Json) → ∀ v ∈ items, Settles v.render v.render
  | [] => nofun
  | item :: rest => List.forall_mem_cons.mpr ⟨settles_render item, settles_items rest⟩

theorem settles_members : (members : List (String × Json)) →
    ∀ m ∈ members, Settles m.2.render m.2.render
  | [] => nofun
  | (_, value) :: rest => List.forall_mem_cons.mpr ⟨settles_render value, settles_members rest⟩

end

/-- What is written without blanks holds no comments and no commas that are too many. -/
theorem strip_compact (v : Json) : strip v.compact = v.compact := by
  have whole := settles_render v {} rfl
  simp [strip, plainText, compact, whole, Pass.finish]

end RemoteAttach.Json.Commented
