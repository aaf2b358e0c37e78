import RemoteAttach.Json.Error

/-! Readers of JSON text. A reader takes the characters ahead of a cursor, which keeps count of the
place reached. An error is placed where it is found, or is left to the enclosing bracket pair,
which tries to close before it gives the error the place reached then. -/

namespace RemoteAttach.Json

namespace Position

/-- The place after a character. -/
def after (p : Position) (c : Char) : Position :=
  if c = '\n' then ⟨p.line + 1, 0⟩ else ⟨p.line, p.column + c.utf8Size⟩

/-- The place after the first byte of a character. -/
def into (p : Position) (c : Char) : Position :=
  if c = '\n' then ⟨p.line + 1, 0⟩ else ⟨p.line, p.column + 1⟩

/-- The place after `count` bytes of a text, which may end inside a character. -/
def bytesOn (p : Position) : Nat → List Char → Position
  | _, [] => p
  | count, c :: rest =>
    if count < c.utf8Size then ⟨p.line, p.column + count⟩
    else (p.after c).bytesOn (count - c.utf8Size) rest

end Position

/-- What is ahead of a reader, and the place it has reached. -/
structure Cursor where
  rest : List Char
  position : Position := {}
  /-- A bound on the number of characters ahead, from which loops take their fuel. -/
  bound : Nat
  deriving DecidableEq, Repr

namespace Cursor

/-- The cursor before a text. -/
def ofText (text : String) : Cursor where
  rest := text.toList
  bound := text.toList.length

/-- The cursor past the next character. -/
def advance (cur : Cursor) : Cursor :=
  match cur.rest with
  | [] => cur
  | c :: rest => { cur with rest, position := cur.position.after c }

/-- The place past the first byte ahead, or the end. -/
def ahead (cur : Cursor) : Position :=
  match cur.rest with
  | [] => cur.position
  | c :: _ => cur.position.into c

/-- A blank of JSON. -/
def isSpace (c : Char) : Bool :=
  c = ' ' || c = '\n' || c = '\t' || c = '\r'

/-- What is left of a text from `position` on without its leading blanks, and the place of that. -/
def pastSpaces (position : Position) : List Char → List Char × Position
  | [] => ([], position)
  | c :: rest => if isSpace c then pastSpaces (position.after c) rest else (c :: rest, position)

/-- The cursor past the blanks ahead. -/
def skipSpaces (cur : Cursor) : Cursor :=
  let (rest, position) := pastSpaces cur.position cur.rest
  { cur with rest, position }

end Cursor

/-- Why a reader stops: an error with its place, or one whose place the enclosing bracket pair
determines from where the reader stopped. -/
inductive Fault where
  | placed (error : ReadError)
  | unplaced (cause : Cause) (stopped : Cursor)
  deriving DecidableEq, Repr

/-- A reader takes what is ahead of a cursor, and gives a value and the cursor past it. -/
abbrev Reader (α : Type) := StateT Cursor (Except Fault) α

namespace Reader

variable {α : Type}

/-- Stops with an error at the place reached. -/
def failHere (cause : Cause) : Reader α := fun cur =>
  .error (.placed ⟨cause, cur.position⟩)

/-- Stops with an error at the place past the first byte ahead. -/
def failAhead (cause : Cause) : Reader α := fun cur =>
  .error (.placed ⟨cause, cur.ahead⟩)

/-- Stops with an error that the enclosing bracket pair places. -/
def failUnplaced (cause : Cause) : Reader α := fun cur =>
  .error (.unplaced cause cur)

/-- The character ahead. -/
def peek : Reader (Option Char) := fun cur =>
  .ok (cur.rest.head?, cur)

/-- Moves past the character ahead. -/
def advance : Reader Unit := fun cur =>
  .ok ((), cur.advance)

/-- Moves past blanks, and gives the character ahead. -/
def skipSpaces : Reader (Option Char) := fun cur =>
  .ok (cur.skipSpaces.rest.head?, cur.skipSpaces)

/-- A bound on the number of characters ahead. -/
def bound : Reader Nat := fun cur =>
  .ok (cur.bound, cur)

/-- Moves past the rest of a word. -/
def word : List Char → Reader Unit
  | [] => pure ()
  | c :: rest => do
    match ← peek with
    | none => failHere .endInValue
    | some d => if c = d then advance; word rest else failAhead .expectedIdent

/-- Moves past the colon after a member's name. -/
def colon : Reader Unit := do
  match ← skipSpaces with
  | some ':' => advance
  | some _ => failAhead .expectedColon
  | none => failHere .endInObject

/-- Tells whether an array goes on, and moves to its next item or its bracket. -/
def hasItem (first : Bool) : Reader Bool := do
  match ← skipSpaces with
  | none => failHere .endInList
  | some ']' => pure false
  | some c =>
    if first then pure true
    else if c = ',' then
      advance
      match ← skipSpaces with
      | some ']' => failAhead .trailingComma
      | some _ => pure true
      | none => failHere .endInValue
    else failAhead .expectedItemEnd

/-- Tells whether an object goes on, and moves to its next name or its bracket. -/
def hasMember (first : Bool) : Reader Bool := do
  match ← skipSpaces with
  | none => failHere .endInObject
  | some '\x7d' => pure false
  | some c =>
    if first then
      if c = '"' then pure true else failAhead .keyNotString
    else if c = ',' then
      advance
      match ← skipSpaces with
      | some '"' => pure true
      | some '\x7d' => failAhead .trailingComma
      | some _ => failAhead .keyNotString
      | none => failHere .endInValue
    else failAhead .expectedMemberEnd

/-- Moves past the bracket that closes an object. -/
def closeObject : Reader Unit := do
  match ← skipSpaces with
  | some '\x7d' => advance
  | some ',' => failAhead .trailingComma
  | some _ => failAhead .trailingCharacters
  | none => failHere .endInObject

/-- Moves past the bracket that closes an array. -/
def closeArray : Reader Unit := do
  match ← skipSpaces with
  | some ']' => advance
  | some ',' =>
    advance
    match ← skipSpaces with
    | some ']' => failAhead .trailingComma
    | _ => failAhead .trailingCharacters
  | some _ => failAhead .trailingCharacters
  | none => failHere .endInList

end Reader

/-- The two kinds of bracket pairs. -/
inductive Bracket where
  | object
  | array
  deriving DecidableEq, Repr

namespace Bracket

/-- Moves past the closing bracket. -/
def close : Bracket → Reader Unit
  | object => Reader.closeObject
  | array => Reader.closeArray

/-- The place reached by an attempt to close, whether or not it succeeds: past blanks, and past the
closing bracket or, in an array, past a comma and the blanks after it. -/
def placeAfter (bracket : Bracket) (cur : Cursor) : Position :=
  let cur := cur.skipSpaces
  match bracket, cur.rest with
  | object, '\x7d' :: _ => cur.advance.position
  | array, ']' :: _ => cur.advance.position
  | array, ',' :: _ => cur.advance.skipSpaces.position
  | _, _ => cur.position

/-- Reads what stands in a bracket pair, after its opening bracket, and moves past the closing one.
An error of `body` that has no place yet gets it here. -/
def enclose {α : Type} (bracket : Bracket) (body : Reader α) : Reader α := fun cur =>
  match body cur with
  | .ok (value, cur) => (bracket.close cur).map fun (_, cur) => (value, cur)
  | .error (.placed error) => .error (.placed error)
  | .error (.unplaced cause stopped) => .error (.placed ⟨cause, bracket.placeAfter stopped⟩)

end Bracket

namespace Reader

/-- The levels of brackets that may be open at once. -/
def maxDepth : Nat := 127

/-- Moves past an opening bracket if a further level may be opened, and gives the levels that may
be opened inside. -/
def enter : Nat → Reader Nat
  | 0 => failAhead .tooDeep
  | room + 1 => do
    advance
    pure room

/-- Reads a whole text. -/
def run {α : Type} (reader : Reader α) (text : String) : Except ReadError α :=
  match reader (.ofText text) with
  | .error (.placed error) => .error error
  | .error (.unplaced cause stopped) => .error ⟨cause, stopped.position⟩
  | .ok (value, cur) =>
    match cur.skipSpaces.rest with
    | [] => .ok value
    | _ :: _ => .error ⟨.trailingCharacters, cur.skipSpaces.ahead⟩

end Reader

end RemoteAttach.Json
