import RemoteAttach.Json.Scalar

/-! Readers of whole JSON values. The members of an object come out by rising name, and of two with
one name the later wins. -/

namespace RemoteAttach.Json.Reader

mutual

/-- Reads a value, inside which `room` further levels may be opened. -/
def valueWith : Nat → Nat → Reader Json
  | 0, _ => failHere .endInValue
  | fuel + 1, room => do
    match ← skipSpaces with
    | none => failHere .endInValue
    | some 'n' =>
      advance
      word ['u', 'l', 'l']
      pure .null
    | some 't' =>
      advance
      word ['r', 'u', 'e']
      pure (.bool true)
    | some 'f' =>
      advance
      word ['a', 'l', 's', 'e']
      pure (.bool false)
    | some '"' =>
      advance
      let text ← literal
      pure (.string text)
    | some '-' =>
      advance
      let n ← number true
      pure (.number n)
    | some '[' =>
      let room ← enter room
      let items ← Bracket.array.enclose (itemsWith fuel room true)
      pure (.array items)
    | some '\x7b' =>
      let room ← enter room
      let members ← Bracket.object.enclose (membersWith fuel room true [])
      pure (.object members)
    | some c =>
      if isDigit c then
        let n ← number false
        pure (.number n)
      else failAhead .expectedValue

/-- Reads the items of an array. -/
def itemsWith : Nat → Nat → Bool → Reader (List Json)
  | 0, _, _ => failHere .endInList
  | fuel + 1, room, first => do
    if ← hasItem first then
      let item ← valueWith fuel room
      let rest ← itemsWith fuel room false
      pure (item :: rest)
    else pure []

/-- Reads the members of an object, which are set in `members` one after the other. -/
def membersWith : Nat → Nat → Bool → Members Json → Reader (Members Json)
  | 0, _, _, _ => failHere .endInObject
  | fuel + 1, room, first, members => do
    if ← hasMember first then
      advance
      let name ← literal
      colon
      let value ← valueWith fuel room
      membersWith fuel room false (members.insert name value)
    else pure members

end

/-- Reads a value, inside which `room` further levels may be opened. Every call takes a character
or is followed by one that does, so that twice the length of the text suffices as fuel. -/
def value (room : Nat) : Reader Json := do
  let fuel ← bound
  valueWith (2 * fuel + 2) room

end RemoteAttach.Json.Reader

namespace RemoteAttach.Json

/-- Reads a whole text as one value. -/
def parse (text : String) : Except ReadError Json :=
  (Reader.value Reader.maxDepth).run text

end RemoteAttach.Json
