import RemoteAttach.Json.Document
import RemoteAttach.Json.Skip

/-! Readers of values whose type is known: texts, truth values, optional values, lists, and records
with named fields. A value of a wrong type is read as far as the report of its kind needs. -/

namespace RemoteAttach.Json.Reader

variable {α σ : Type}

/-- Stops because the value ahead is not what was asked for. A scalar is passed first, a bracket is
not. -/
def wrongType (expected : Expected) : Reader α := do
  match ← peek with
  | some 'n' =>
    advance
    word ['u', 'l', 'l']
    failHere (.wrongType .null expected)
  | some 't' =>
    advance
    word ['r', 'u', 'e']
    failHere (.wrongType (.boolean true) expected)
  | some 'f' =>
    advance
    word ['a', 'l', 's', 'e']
    failHere (.wrongType (.boolean false) expected)
  | some '-' =>
    advance
    let n ← number true
    failHere (.wrongType (.number n) expected)
  | some '"' =>
    advance
    let text ← literal
    failHere (.wrongType (.string text) expected)
  | some '[' => failHere (.wrongType .sequence expected)
  | some '\x7b' => failHere (.wrongType .map expected)
  | some c =>
    if isDigit c then
      let n ← number false
      failHere (.wrongType (.number n) expected)
    else failAhead .expectedValue
  | none => failAhead .expectedValue

/-- Reads a string. -/
def string : Reader String := do
  match ← skipSpaces with
  | none => failHere .endInValue
  | some '"' =>
    advance
    literal
  | some _ => wrongType .string

/-- Reads a truth value. -/
def boolean : Reader Bool := do
  match ← skipSpaces with
  | none => failHere .endInValue
  | some 't' =>
    advance
    word ['r', 'u', 'e']
    pure true
  | some 'f' =>
    advance
    word ['a', 'l', 's', 'e']
    pure false
  | some _ => wrongType .boolean

/-- Reads a value or `null`, which stands for none. -/
def optional (reader : Reader α) : Reader (Option α) := do
  match ← skipSpaces with
  | some 'n' =>
    advance
    word ['u', 'l', 'l']
    pure none
  | _ =>
    let value ← reader
    pure (some value)

/-- Takes the members of an object one after the other: `take` gets each name, and reads from the
colon on. -/
def foldMembersWith (take : String → σ → Reader σ) : Nat → Bool → σ → Reader σ
  | 0, _, _ => failHere .endInObject
  | fuel + 1, first, state => do
    if ← hasMember first then
      advance
      let name ← literal
      let state ← take name state
      foldMembersWith take fuel false state
    else pure state

/-- Takes the members of an object one after the other, after its opening bracket. -/
def foldMembers (take : String → σ → Reader σ) (state : σ) : Reader σ := do
  let fuel ← bound
  foldMembersWith take (fuel + 1) true state

/-- Reads the items of an array one after the other. -/
def eachItemWith (reader : Reader α) : Nat → Bool → Reader (List α)
  | 0, _ => failHere .endInList
  | fuel + 1, first => do
    if ← hasItem first then
      let item ← reader
      let rest ← eachItemWith reader fuel false
      pure (item :: rest)
    else pure []

/-- Reads an array whose items are read by `reader`, which gets the levels that may be opened. -/
def list (reader : Nat → Reader α) (room : Nat) : Reader (List α) := do
  match ← skipSpaces with
  | none => failHere .endInValue
  | some '[' =>
    let room ← enter room
    let fuel ← bound
    Bracket.array.enclose (eachItemWith (reader room) (fuel + 1) true)
  | some _ => wrongType .sequence

/-- Reads an object as a map; of two members with one name the later wins. -/
def map (reader : Reader α) (room : Nat) : Reader (Members α) := do
  match ← skipSpaces with
  | none => failHere .endInValue
  | some '\x7b' =>
    let _ ← enter room
    Bracket.object.enclose <| foldMembers (fun name members => do
      colon
      let value ← reader
      pure (members.insert name value)) []
  | some _ => wrongType .map

/-- Reads the value of the field `name`, which must not have been there before. -/
def field (name : String) (before : Option α) (reader : Reader α) : Reader (Option α) := do
  if before.isSome then failUnplaced (.duplicateField name)
  else
    colon
    let value ← reader
    pure (some value)

/-- Passes over a member that is not a field. -/
def skipMember : Reader Unit := do
  colon
  skipValue

/-- Reads the next item of an array for a field, if there is one. -/
def nextItem (first : Bool) (reader : Reader α) : Reader (Option α) := do
  if ← hasItem first then
    let value ← reader
    pure (some value)
  else pure none

/-- Reads a record in either form: an object whose members `take` sorts into a state, or an array
of the fields in their order. Both readers start after the opening bracket and get the levels that
may be opened inside. -/
def record (name : String) (room : Nat) (byName byOrder : Nat → Reader α) : Reader α := do
  match ← skipSpaces with
  | none => failHere .endInValue
  | some '\x7b' =>
    let room ← enter room
    Bracket.object.enclose (byName room)
  | some '[' =>
    let room ← enter room
    Bracket.array.enclose (byOrder room)
  | some _ => wrongType (.record name)

/-- Reads a record that has only the form of an object. -/
def objectRecord (name : String) (room : Nat) (byName : Nat → Reader α) : Reader α := do
  match ← skipSpaces with
  | none => failHere .endInValue
  | some '\x7b' =>
    let room ← enter room
    Bracket.object.enclose (byName room)
  | some _ => wrongType (.record name)

end RemoteAttach.Json.Reader
