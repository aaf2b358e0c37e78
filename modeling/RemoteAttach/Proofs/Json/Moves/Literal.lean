import RemoteAttach.Json.Skip
import RemoteAttach.Proofs.Json.Moves

/-! A string literal that has been read, or passed over, is a token. An escape by code takes only
characters that stand for themselves. -/

namespace RemoteAttach.Json.Reader

variable {α : Type} {Q : α → Condition} {Φ : List Token → Prop} {c : Char}

/-- The opening quote of a string literal and some parts of it are behind. -/
def InText (Φ : List Token → Prop) : Condition := fun behind ahead =>
  ∃ parts : List LiteralPart, Inside Φ ('"' :: parts.flatMap LiteralPart.text) behind ahead

/-- The backslash of an escape is behind besides. -/
def InEscape (Φ : List Token → Prop) : Condition := fun behind ahead =>
  ∃ parts : List LiteralPart,
    Inside Φ ('"' :: (parts.flatMap LiteralPart.text ++ ['\\'])) behind ahead

theorem InText.append {text behind ahead : List Char} (parts : List LiteralPart)
    (eq : parts.flatMap LiteralPart.text = text) (h : InText Φ behind (text ++ ahead)) :
    InText Φ (behind ++ text) ahead := by
  obtain ⟨before, tokens, whole, rfl, spaced, holds⟩ := h
  exact ⟨before ++ parts, tokens, whole, by simp [eq], spaced, holds⟩

/-- Moving past the opening quote. -/
theorem Moves.quote :
    Moves (Ahead (Tokens Φ) (some '"')) Reader.advance fun _ => InText Φ :=
  Moves.first.weaken fun _ _ _ place => ⟨[], place⟩

/-- Moving past the closing quote. -/
theorem Moves.closingQuote :
    Moves (Ahead (InText Awaiting) (some '"')) Reader.advance fun _ => Tokens Complete := by
  refine Moves.advance ?_
  rintro behind ahead ⟨parts, tokens, whole, rfl, spaced, holds⟩
  refine Inside.tokens (Φ := Awaiting) (.literal parts) (fun _ h => h.append_value rfl rfl) ?_
  exact ⟨tokens, whole, by simp [Token.text], spaced, holds⟩

theorem Moves.plainChar (plain : c ≠ '"' ∧ c ≠ '\\') :
    Moves (Ahead (InText Φ) (some c)) Reader.advance fun _ => InText Φ :=
  Moves.advance fun _ _ place => InText.append [.char c plain] rfl place

theorem Moves.backslash :
    Moves (Ahead (InText Φ) (some '\\')) Reader.advance fun _ => InEscape Φ := by
  refine Moves.advance ?_
  rintro behind ahead ⟨parts, tokens, whole, rfl, spaced, holds⟩
  exact ⟨parts, tokens, whole, by simp, spaced, holds⟩

theorem Moves.escaped :
    Moves (Ahead (InEscape Φ) (some c)) Reader.advance fun _ => InText Φ := by
  refine Moves.advance ?_
  rintro behind ahead ⟨parts, tokens, whole, rfl, spaced, holds⟩
  exact ⟨parts ++ [.escape c], tokens, whole, by simp [LiteralPart.text], spaced, holds⟩

/-- The code of an escape is spelt by characters that stand for themselves. -/
theorem Moves.hexCode : Moves (InText Φ) hexCode fun _ => InText Φ := by
  intro behind cur code cur' place bounded run
  unfold Reader.hexCode at run
  dsimp only at run
  split at run
  · rename_i a b c d rest eq
    split at run
    · rename_i digits
      obtain ⟨-, rfl⟩ := Prod.mk.inj (Except.ok.inj run)
      obtain ⟨parts, text⟩ := exists_parts_of_digitsAfter digits
      obtain ⟨ahead, position, bound⟩ := cur
      subst eq
      exact ⟨[a, b, c, d], rfl, rfl, InText.append parts text place⟩
    · split at run <;> cases run
  · split at run <;> cases run

theorem Moves.surrogateMarks {r : Reader α} (next : Moves (InText Φ) r Q) :
    Moves (InText Φ)
      (Reader.surrogateMark '\\' >>= fun _ => Reader.surrogateMark 'u' >>= fun _ => r) Q := by
  refine Moves.bind (Q := fun _ => InEscape Φ) (Moves.peek fun c? => ?_) fun _ =>
    Moves.bind (Q := fun _ => InText Φ) (Moves.peek fun c? => ?_) fun _ => next
  · split
    · exact Moves.failHere _
    · split
      · rename_i same
        subst same
        exact Moves.backslash
      · exact Moves.failAhead _
  · split
    · exact Moves.failHere _
    · split
      · exact Moves.escaped
      · exact Moves.failAhead _

theorem Moves.unicodeEscape : Moves (InText Φ) unicodeEscape fun _ => InText Φ := by
  refine Moves.hexCode.bind fun code => ?_
  split
  · exact Moves.failHere _
  · split
    · refine Moves.surrogateMarks (Moves.hexCode.bind fun second => ?_)
      split
      · exact Moves.pure fun _ _ => id
      · exact Moves.failHere _
    · exact Moves.pure fun _ _ => id

/-- An escape, after its backslash. -/
theorem Moves.escape : Moves (InEscape Φ) escape fun _ => InText Φ := by
  refine Moves.peek fun c? => ?_
  split
  · exact Moves.failHere _
  · exact Moves.escaped.bind fun _ => Moves.unicodeEscape
  · split
    · exact Moves.escaped.bind fun _ => Moves.pure fun _ _ => id
    · exact Moves.failAhead _

theorem Moves.literalAfter (fuel : Nat) (read : List Char) :
    Moves (InText Awaiting) (literalAfter fuel read) fun _ => Tokens Complete := by
  induction fuel generalizing read with
  | zero => exact Moves.failHere _
  | succ fuel ih =>
    refine Moves.peek fun c? => ?_
    split
    · exact Moves.failHere _
    · exact Moves.closingQuote.bind fun _ => Moves.pure fun _ _ => id
    · exact Moves.backslash.bind fun _ => Moves.escape.bind fun c => ih (c :: read)
    · rename_i noQuote noEscape
      split
      · exact Moves.failAhead _
      · exact (Moves.plainChar ⟨by simpa using noQuote, by simpa using noEscape⟩).bind fun _ =>
          ih _

/-- A string literal that has been read, after its opening quote. -/
theorem Moves.literal : Moves (InText Awaiting) literal fun _ => Tokens Complete :=
  Moves.fuel fun fuel => (Moves.literalAfter (fuel + 1) []).bind fun _ => Moves.pure fun _ _ => id

theorem Moves.skipLiteral (fuel : Nat) :
    Moves (InText Awaiting) (skipLiteral fuel) fun _ => Tokens Complete := by
  induction fuel with
  | zero => exact Moves.failHere _
  | succ fuel ih =>
    refine Moves.peek fun c? => ?_
    split
    · exact Moves.failHere _
    · exact Moves.closingQuote
    · refine Moves.backslash.bind fun _ => Moves.peek fun c? => ?_
      split
      · exact Moves.failHere _
      · exact Moves.escaped.bind fun _ => Moves.hexCode.bind fun _ => ih
      · split
        · exact Moves.escaped.bind fun _ => ih
        · exact (Moves.failAhead _).bind fun _ => ih
    · rename_i noQuote noEscape
      split
      · exact Moves.failHere _
      · exact (Moves.plainChar ⟨by simpa using noQuote, by simpa using noEscape⟩).bind fun _ => ih

/-- A string literal that has been passed over, after its opening quote. -/
theorem Moves.skipString : Moves (InText Awaiting) skipString fun _ => Tokens Complete :=
  Moves.fuel fun fuel => Moves.skipLiteral (fuel + 1)

end RemoteAttach.Json.Reader
