import RemoteAttach.Json.Scalar

/-! Passing over JSON values that nobody asks for. Their grammar is checked, but there is no limit
on their depth or the size of their numbers, and surrogates need not pair up. -/

namespace RemoteAttach.Json.Reader

/-- Passes over the rest of a string literal and its closing quote. -/
def skipLiteral : Nat → Reader Unit
  | 0 => failHere .endInString
  | fuel + 1 => do
    match ← peek with
    | none => failHere .endInString
    | some '"' => advance
    | some '\\' =>
      advance
      match ← peek with
      | none => failHere .endInString
      | some 'u' =>
        advance
        let _ ← hexCode
      | some c => if (escaped? c).isSome then advance else failAhead .invalidEscape
      skipLiteral fuel
    | some c =>
      if c.toNat < 0x20 then failHere .controlCharacter
      else
        advance
        skipLiteral fuel

/-- Passes over a string literal, after its opening quote. -/
def skipString : Reader Unit := do
  let fuel ← bound
  skipLiteral (fuel + 1)

/-- Passes over the exponent part ahead. -/
def skipExponent : Reader Unit := do
  advance
  match ← peek with
  | some '+' | some '-' => advance
  | _ => pure ()
  let ds ← digits
  if ds.isEmpty then failAhead .invalidNumber

/-- Passes over the fraction and exponent part that may be ahead. -/
def skipFraction : Reader Unit := do
  match ← peek with
  | some '.' =>
    advance
    let ds ← digits
    if ds.isEmpty then failAhead .invalidNumber
    else match ← peek with
      | some 'e' | some 'E' => skipExponent
      | _ => pure ()
  | some 'e' | some 'E' => skipExponent
  | _ => pure ()

/-- Passes over a number, after its sign. -/
def skipNumber : Reader Unit := do
  match ← peek with
  | some '0' =>
    advance
    match ← peek with
    | some c => if isDigit c then failAhead .invalidNumber else skipFraction
    | none => pure ()
  | _ =>
    let ds ← digits
    if ds.isEmpty then failAhead .invalidNumber else skipFraction

/-- Passes over a member's name and colon. -/
def skipName : Reader Unit := do
  match ← skipSpaces with
  | some '"' =>
    advance
    skipString
    colon
  | some _ => failAhead .keyNotString
  | none => failHere .endInObject

mutual

/-- Passes over a value inside the open brackets `open_`, and over what follows up to the end of
the outermost of them. -/
def skipIn : Nat → List Bracket → Reader Unit
  | 0, _ => failHere .endInValue
  | fuel + 1, open_ => do
    match ← skipSpaces with
    | none => failHere .endInValue
    | some 'n' =>
      advance
      word ['u', 'l', 'l']
      skipAfter fuel open_
    | some 't' =>
      advance
      word ['r', 'u', 'e']
      skipAfter fuel open_
    | some 'f' =>
      advance
      word ['a', 'l', 's', 'e']
      skipAfter fuel open_
    | some '-' =>
      advance
      skipNumber
      skipAfter fuel open_
    | some '"' =>
      advance
      skipString
      skipAfter fuel open_
    | some '[' =>
      advance
      match ← skipSpaces with
      | none => failHere .endInList
      | some ']' =>
        advance
        skipAfter fuel open_
      | some _ => skipIn fuel (.array :: open_)
    | some '\x7b' =>
      advance
      match ← skipSpaces with
      | none => failHere .endInObject
      | some '\x7d' =>
        advance
        skipAfter fuel open_
      | some _ =>
        skipName
        skipIn fuel (.object :: open_)
    | some c =>
      if isDigit c then
        skipNumber
        skipAfter fuel open_
      else failAhead .expectedValue

/-- Passes over what follows a value inside the open brackets. -/
def skipAfter : Nat → List Bracket → Reader Unit
  | _, [] => pure ()
  | 0, _ => failHere .endInValue
  | fuel + 1, bracket :: outer => do
    match bracket, ← skipSpaces with
    | .array, none => failHere .endInList
    | .object, none => failHere .endInObject
    | .array, some ',' =>
      advance
      skipIn fuel (bracket :: outer)
    | .object, some ',' =>
      advance
      skipName
      skipIn fuel (bracket :: outer)
    | .array, some ']' =>
      advance
      skipAfter fuel outer
    | .object, some '\x7d' =>
      advance
      skipAfter fuel outer
    | .array, some _ => failAhead .expectedItemEnd
    | .object, some _ => failAhead .expectedMemberEnd

end

/-- Passes over a value. Every call takes a character or is followed by one that does, so that
twice the number of characters ahead suffices as fuel. -/
def skipValue : Reader Unit := do
  let fuel ← bound
  skipIn (2 * fuel + 2) []

end RemoteAttach.Json.Reader
