import RemoteAttach.Text.Regex

/-! Reading regular expressions. In the basic form the marks of groups, alternatives and intervals
follow a backslash; in the extended form they stand alone. -/

namespace RemoteAttach.Regex

/-- Why a text is no regular expression. -/
inductive Refusal where
  | collation
  | className
  | trailingBackslash
  | backReference
  | unmatchedBracket
  /-- The text ends just after an opening bracket. -/
  | lone
  | unmatchedOpen
  | unmatchedBrace
  | interval
  | range
  | nothingBefore
  | unmatchedClose
  | tooBig
  deriving DecidableEq, Repr

/-- The words for a refusal. -/
def Refusal.message : Refusal → String
  | .collation => "Invalid collation character"
  | .className => "Invalid character class name"
  | .trailingBackslash => "Trailing backslash"
  | .backReference => "Invalid back reference"
  | .unmatchedBracket => "Unmatched [, [^, [:, [., or [="
  | .lone => "Invalid regular expression"
  | .unmatchedOpen => "Unmatched ( or \\("
  | .unmatchedBrace => "Unmatched \\\x7b"
  | .interval => "Invalid content of \\\x7b\\\x7d"
  | .range => "Invalid range end"
  | .nothingBefore => "Invalid preceding regular expression"
  | .unmatchedClose => "Unmatched ) or \\)"
  | .tooBig => "Regular expression too big"

/-- The form in which an expression is written. -/
structure Form where
  /-- The marks of groups, alternatives and intervals stand alone. -/
  extended : Bool := false
  /-- A repetition of nothing is refused and not passed over, as are intervals that are none, and a
  repetition of a repetition in the basic form. -/
  strict : Bool := false
  /-- A mark that closes a group has to have one that opens it, also in the extended form. -/
  paired : Bool := false
  /-- There are no empty branches. -/
  filled : Bool := false
  /-- A backslash also protects characters in brackets. -/
  escapes : Bool := false
  /-- Intervals tell how often something is repeated. -/
  counts : Bool := true
  /-- In the basic form, the marks of one repetition or more and of at most one stand alone. -/
  bareRepeats : Bool := false
  /-- A range may end before it begins, and then holds nothing. -/
  emptyRanges : Bool := false
  /-- A point stands for any character but the end of a line. -/
  pointInLine : Bool := false
  /-- A place where a line begins or ends counts like a place where the text does. -/
  lines : Bool := false

/-- No condition on a place can be repeated. -/
def Form.bareAnchors (form : Form) : Bool := form.strict && !form.escapes

/-- What is left of an expression while it is read. -/
structure Unread where
  rest : List Char
  /-- The number of groups that have been opened. -/
  opened : Nat := 0
  /-- The groups that have been closed. -/
  closed : List Nat := []
  /-- The number of groups around this place. -/
  depth : Nat := 0

/-- Reads from an expression. -/
abbrev Reading (α : Type) := StateT Unread (Except Refusal) α

namespace Reading

/-- What is left of the expression. -/
def rest : Reading (List Char) := do
  pure (← get).rest

/-- Moves past some characters. -/
def skip (count : Nat) : Reading Unit :=
  modify fun u => { u with rest := u.rest.drop count }

/-- The character that a letter after a backslash stands for in brackets. -/
def escaped (c : Char) : Char :=
  match c with
  | 'n' => '\n'
  | 't' => '\t'
  | 'r' => '\r'
  | 'f' => '\x0c'
  | 'v' => '\x0b'
  | c => c

/-- One end of a range in brackets, and what follows it. -/
def rangeEnd? (form : Form) : List Char → Option (Char × List Char)
  | '[' :: '.' :: c :: '.' :: ']' :: rest => some (c, rest)
  | '[' :: '=' :: c :: '=' :: ']' :: rest => some (c, rest)
  | '\\' :: c :: rest => if form.escapes then some (escaped c, rest) else some ('\\', c :: rest)
  | c :: rest => some (c, rest)
  | [] => none

/-- A name between marks in brackets is longer than one character. -/
def hasLongName : List Char → Bool
  | '[' :: mark :: rest =>
    (mark = '.' || mark = '=') && (rest.drop 1).head? ≠ some mark
  | _ => false

/-- Reads the ranges in brackets up to the closing one. -/
def rangesFrom (form : Form) : Nat → Bool → Reading (List (Char × Char))
  | 0, _ => throw .unmatchedBracket
  | fuel + 1, first => do
    match ← rest with
    | [] => throw .unmatchedBracket
    | ']' :: _ =>
      if first then ends fuel first
      else
        skip 1
        pure []
    | '[' :: ':' :: more =>
      let name := more.takeWhile fun c => c ≠ ':' && c ≠ ']'
      match more.drop name.length with
      | ':' :: ']' :: _ =>
        match CharSet.classRanges? (String.ofList name) with
        | none => throw .className
        | some ranges =>
          skip (name.length + 4)
          pure (ranges ++ (← rangesFrom form fuel false))
      | _ => throw .unmatchedBracket
    | _ => ends fuel first
where
  /-- Reads a range or a character. -/
  ends (fuel : Nat) (first : Bool) : Reading (List (Char × Char)) := do
    let text ← rest
    if hasLongName text then throw .collation
    if !first && text.head? = some '-' && (text.drop 1).head?.any (· ≠ ']') then throw .range
    match rangeEnd? form text with
    | none => throw .unmatchedBracket
    | some (low, after) =>
      match after with
      | '-' :: more =>
        if more.head? = some ']' then
          modify fun u => { u with rest := more }
          pure ((low, low) :: ('-', '-') :: (← rangesFrom form fuel false))
        else
          match rangeEnd? form more with
          | none => throw .unmatchedBracket
          | some (high, after) =>
            if high < low && !form.emptyRanges then throw .range
            modify fun u => { u with rest := after }
            pure ((low, high) :: (← rangesFrom form fuel false))
      | _ =>
        modify fun u => { u with rest := after }
        pure ((low, low) :: (← rangesFrom form fuel false))

/-- Reads a set of characters after its opening bracket. -/
def bracket (form : Form) : Reading Regex := do
  let negated := (← rest).head? = some '^'
  if negated then skip 1
  if (← rest).isEmpty then throw .lone
  let ranges ← rangesFrom form ((← rest).length + 1) true
  pure (.oneOf ⟨ranges, negated⟩)

/-- The limits of an interval at the start of a text, and the number of characters up to and with
its closing mark. -/
def interval? (close text : List Char) : Option (Nat × Option Nat × Nat) :=
  let low := text.takeWhile Char.isDigit
  let after := text.drop low.length
  let number := fun (digits : List Char) => (String.ofList digits).toNat?.getD 0
  match after with
  | ',' :: more =>
    let high := more.takeWhile Char.isDigit
    if close.isPrefixOf (more.drop high.length) then
      let most := if high.isEmpty then none else some (number high)
      some (number low, most, low.length + 1 + high.length + close.length)
    else none
  | _ =>
    if low.isEmpty then none
    else if close.isPrefixOf after then
      some (number low, some (number low), low.length + close.length)
    else none

/-- The largest number of repetitions. -/
def maxRepeats : Nat := 32767

/-- Reads the repetitions after an expression. -/
def repeatsFrom (form : Form) (again : Bool) : Nat → Regex → Reading Regex
  | 0, r => pure r
  | fuel + 1, r => do
    if again && form.strict && !form.extended then
      match ← rest with
      | '*' :: _ | '\\' :: '\x7b' :: _ => throw .nothingBefore
      | _ => pure ()
    let interval := fun (marks : Nat) (close : List Char) => do
      let text := (← rest).drop marks
      match interval? close text with
      | none =>
        if form.extended && !form.strict then pure r
        else if form.extended then
          throw (if text.contains '\x7d' then .interval else .unmatchedBrace)
        else
          throw (if text.any fun c => c = '\\' then .interval else .unmatchedBrace)
      | some (least, most, count) =>
        if most.any (· < least) then throw .interval
        if maxRepeats < most.getD least then throw .tooBig
        skip (marks + count)
        repeatsFrom form true fuel (r.repeated least most)
    match ← rest with
    | '*' :: _ =>
      skip 1
      repeatsFrom form true fuel r.anyNumber
    | '\\' :: '+' :: _ =>
      if form.extended || form.bareRepeats then pure r
      else
        skip 2
        repeatsFrom form true fuel (r.repeated 1 none)
    | '\\' :: '?' :: _ =>
      if form.extended || form.bareRepeats then pure r
      else
        skip 2
        repeatsFrom form true fuel r.optional
    | '\\' :: '\x7b' :: _ =>
      if form.extended || !form.counts then pure r else interval 2 ['\\', '\x7d']
    | c :: _ =>
      if !form.extended && !form.bareRepeats then pure r
      else if c = '+' then
        skip 1
        repeatsFrom form true fuel (r.repeated 1 none)
      else if c = '?' then
        skip 1
        repeatsFrom form true fuel r.optional
      else if c = '\x7b' && form.counts && form.extended then interval 1 ['\x7d']
      else pure r
    | [] => pure r

/-- What a letter after a backslash stands for, if it is no mark of the form. -/
def escape (form : Form) (closed : List Nat) (c : Char) : Except Refusal Regex :=
  if form.escapes then .ok (.char (escaped c))
  else
    match c with
    | 'w' => .ok (.oneOf CharSet.word)
    | 'W' => .ok (.oneOf (CharSet.word true))
    | 's' => .ok (.oneOf CharSet.space)
    | 'S' => .ok (.oneOf (CharSet.space true))
    | 'b' => .ok (.anchor .wordEdge)
    | 'B' => .ok (.anchor .wordInside)
    | '<' => .ok (.anchor .wordStart)
    | '>' => .ok (.anchor .wordEnd)
    | '`' => .ok (.anchor .textStart)
    | '\'' => .ok (.anchor .textEnd)
    | c =>
      if c.isDigit && c ≠ '0' then
        let index := c.toNat - '0'.toNat
        if closed.contains index then .ok (.back index) else .error .backReference
      else .ok (.char c)

/-- A branch ends before this text. -/
def endsBranch (form : Form) (depth : Nat) : List Char → Bool
  | [] => true
  | '\\' :: c :: _ => !form.extended && (c = '|' || (c = ')'))
  | '|' :: _ => form.extended
  | ')' :: _ => form.extended && (form.paired || depth ≠ 0)
  | _ => false

mutual

/-- Reads alternatives up to the end of a group or of the text. None of them looks back at the
groups of another. -/
def alternatives (form : Form) : Nat → Reading Regex
  | 0 => throw .tooBig
  | fuel + 1 => do
    let u ← get
    let next := fun (marks : Nat) => do
      let closed := (← get).closed
      modify fun v => { v with rest := v.rest.drop marks, closed := u.closed }
      let second ← alternatives form fuel
      modify fun v => { v with closed := closed ++ v.closed }
      pure second
    if form.filled && endsBranch form u.depth u.rest then
      throw (if u.rest.isEmpty && u.depth ≠ 0 then .unmatchedOpen else .nothingBefore)
    let first ← branch form fuel true
    match ← rest with
    | '|' :: _ => pure (first.either (← next 1))
    | '\\' :: '|' :: _ => pure (first.either (← next 2))
    | _ => pure first

/-- Reads a branch, of which nothing has been read if it is `fresh`. -/
def branch (form : Form) : Nat → Bool → Reading Regex
  | 0, _ => throw .tooBig
  | fuel + 1, fresh => do
    let u ← get
    if endsBranch form u.depth u.rest then pure .empty
    else
      let (r, anchors) ← atom form fuel fresh
      let r ← if anchors && (form.bareAnchors || !form.extended) then pure r
        else repeatsFrom form false (u.rest.length + 1) r
      let more ← branch form fuel (anchors && (fresh || form.bareAnchors))
      pure (match more with
        | .empty => r
        | more => .seq r more)

/-- Reads what can be repeated, and tells whether it is the start of a line, or any condition on a
place where none of them can be repeated. -/
def atom (form : Form) : Nat → Bool → Reading (Regex × Bool)
  | 0, _ => throw .tooBig
  | fuel + 1, fresh => do
    let u ← get
    let lineStart : Regex := .anchor (if form.lines then .lineStart else .textStart)
    let lineEnd : Regex := .anchor (if form.lines then .lineEnd else .textEnd)
    let literal := fun (count : Nat) (c : Char) => do
      skip count
      pure (Regex.char c, false)
    match u.rest with
    | [] => pure (.empty, false)
    | '\\' :: [] => throw .trailingBackslash
    | '\\' :: c :: _ =>
      if !form.extended && c = '(' then
        skip 2
        group form fuel ['\\', ')']
      else if !form.extended && c = '\x7b' && fresh && form.strict then throw .nothingBefore
      else
        skip 2
        match escape form u.closed c with
        | .ok (.anchor a) => pure (.anchor a, form.bareAnchors)
        | .ok r => pure (r, false)
        | .error e => throw e
    | '[' :: _ =>
      skip 1
      pure (← bracket form, false)
    | '.' :: _ =>
      skip 1
      pure (.oneOf (if form.pointInLine then ⟨[('\n', '\n')], true⟩ else .all), false)
    | '^' :: _ =>
      if form.extended || fresh then
        skip 1
        pure (lineStart, true)
      else literal 1 '^'
    | '$' :: more =>
      if form.extended || endsBranch form u.depth more then
        skip 1
        pure (lineEnd, form.bareAnchors)
      else literal 1 '$'
    | c :: _ =>
      if !form.extended then literal 1 c
      else if c = '(' then
        skip 1
        group form fuel [')']
      else if fresh && (c = '*' || c = '+' || c = '?') then
        if form.strict then throw .nothingBefore
        else
          skip 1
          pure (.empty, true)
      else if fresh && c = '\x7b' && !form.counts then literal 1 c
      else if fresh && c = '\x7b' && form.strict then throw .nothingBefore
      else if fresh && c = '\x7b' then
        match interval? ['\x7d'] (u.rest.drop 1) with
        | some (_, _, count) =>
          skip (count + 1)
          pure (.empty, true)
        | none => literal 1 c
      else literal 1 c

/-- Reads a group after its opening mark. -/
def group (form : Form) : Nat → List Char → Reading (Regex × Bool)
  | 0, _ => throw .tooBig
  | fuel + 1, close => do
    let before ← get
    let index := before.opened + 1
    set { before with opened := index, depth := before.depth + 1 }
    let inner ← alternatives form fuel
    let u ← get
    if !close.isPrefixOf u.rest then throw .unmatchedOpen
    set { u with
      rest := u.rest.drop close.length, closed := index :: u.closed, depth := before.depth }
    pure (.group index inner false, false)

end

end Reading

/-- The expression that a text writes. -/
def read (form : Form) (text : List Char) : Except Refusal Regex := do
  let (r, u) ← (Reading.alternatives form (4 * text.length + 8)).run { rest := text }
  if u.rest.isEmpty then pure r else throw .unmatchedClose

end RemoteAttach.Regex
