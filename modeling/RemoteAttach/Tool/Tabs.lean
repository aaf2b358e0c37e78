import RemoteAttach.Tool.Basic

/-! Programs that put blanks in the place of tabs, and tabs in the place of blanks. -/

namespace RemoteAttach.Tool

open Shell Act

/-- The columns at which tabs end: some places, and what follows them. -/
structure TabStops where
  places : List Nat := []
  /-- The distance of the stops after the last place, counted from the start of the line, or from
  the last place if `fromLast`. Without it there are none. -/
  distance : Option Nat := some 8
  fromLast : Bool := false

namespace TabStops

/-- The next stop behind a column. -/
def next? (t : TabStops) (column : Nat) : Option Nat :=
  match t.places.find? (column < ·), t.distance with
  | some place, _ => some place
  | none, none => none
  | none, some distance =>
    let base := if t.fromLast then (t.places.getLast?).getD 0 else 0
    some (column + (distance - (column - base) % distance))

/-- The stops that a list of numbers means, after those that are known already. -/
def add (t : TabStops) (text : String) : Except String TabStops :=
  let parts := ((text.toList.splitBy fun a b => (a = ',' || a = ' ') = (b = ',' || b = ' ')).filter
    fun part => !part.any fun c => c = ',' || c = ' ')
  parts.foldlM (fun (t : TabStops) part =>
    let (mark, digits) := match part with
      | '/' :: rest => (some '/', rest)
      | '+' :: rest => (some '+', rest)
      | rest => (none, rest)
    match (String.ofList digits).toNat? with
    | none =>
      .error ("tab size contains invalid character(s): " ++
        cited (String.ofList (digits.dropWhile Char.isDigit)))
    | some n =>
      match mark with
      | some c => .ok { t with distance := some n, fromLast := c = '+' }
      | none => .ok { t with places := t.places ++ [n] }) t

/-- The stops that options give. A single number is a distance. -/
def ofTexts (texts : List String) : Except String TabStops := do
  if texts.isEmpty then pure {}
  else
    let t ← texts.foldlM add { distance := none }
    if t.places.contains 0 || t.distance = some 0 then .error "tab size cannot be 0"
    else if (t.places.zip (t.places.drop 1)).any fun (a, b) => b ≤ a then
      .error "tab sizes must be ascending"
    else
      match t.places, t.distance with
      | [n], none => pure { distance := some n }
      | [], none => pure {}
      | _, _ => pure t

end TabStops

/-- The stops that some texts mean. -/
def tabStops (texts : List String) : Act TabStops := do
  match TabStops.ofTexts texts with
  | .ok t => pure t
  | .error words => fail words

/-- A line with blanks in the place of its tabs, or of those before its first other character. -/
def withoutTabs (t : TabStops) (onlyFirst : Bool) : Nat → List Char → List Char
  | _, [] => []
  | column, '\t' :: rest =>
    let next := (t.next? column).getD (column + 1)
    List.replicate (next - column) ' ' ++ withoutTabs t onlyFirst next rest
  | column, '\x08' :: rest => '\x08' :: withoutTabs t onlyFirst (column - 1) rest
  | column, c :: rest =>
    if onlyFirst && c ≠ ' ' then c :: rest
    else c :: withoutTabs t onlyFirst (column + 1) rest

/-- How far a line has been read whose blanks become tabs. -/
structure TabState where
  column : Nat := 0
  /-- The blanks before the next character, the first one first. -/
  pending : List Char := []
  /-- A single blank stands just before a stop. -/
  oneBefore : Bool := false
  afterBlank : Bool := true
  converts : Bool := true

/-- The blanks that are written before the next character. -/
def TabState.held (s : TabState) : List Char :=
  match s.pending with
  | _ :: c :: rest => if s.oneBefore then '\t' :: c :: rest else s.pending
  | pending => pending

/-- A line with tabs in the place of its blanks, in the whole line or only at its start. -/
def withTabs (t : TabStops) (whole : Bool) (s : TabState) : List Char → List Char
  | [] => s.held
  | c :: rest =>
    if !s.converts then c :: withTabs t whole s rest
    else
      let plain := fun (s : TabState) (column : Nat) (isBlank : Bool) =>
        s.held ++ c :: withTabs t whole {
          column, afterBlank := isBlank, converts := s.converts && (whole || isBlank) } rest
      if c = ' ' || c = '\t' then
        match t.next? s.column with
        | none => plain { s with converts := false } s.column true
        | some next =>
          if c = '\t' then
            let pending := if s.oneBefore then ['\t'] else []
            pending ++ c :: withTabs t whole { column := next } rest
          else if s.afterBlank && s.column + 1 = next then
            let pending := if s.oneBefore then ['\t'] else []
            pending ++ '\t' :: withTabs t whole { column := next } rest
          else
            withTabs t whole { s with
              column := s.column + 1, pending := s.pending ++ [c], afterBlank := true
              oneBefore := s.oneBefore || s.column + 1 = next } rest
      else if c = '\x08' then plain s (s.column - 1) false
      else plain s (s.column + 1) false

/-- Changes each line of some files. -/
def changeLines (operands : List String) (change : List Char → List Char) : Act Unit := do
  forAll (orInput operands) fun operand => do
    match ← content operand with
    | .error e => deploreFile operand e
    | .ok text =>
      let (lines, last) := Text.linesOf '\n' text
      write (Text.ofLines (lines.map change) ++ change last)
  closeInput "-" (orInput operands)

/-- Replaces tabs by blanks. -/
def expand (args : List String) : Act Unit := do
  let f ← options {
    letters := "it:" ++ String.join ((List.range 10).map fun digit => toString digit ++ "::")
    names := [("initial", 'i', .nothing), ("tabs", 't', .value)] } args
  let t ← tabStops (f.options.filterMap fun (c, value) =>
    if c = 't' then some value
    else if c.isDigit then some (c.toString ++ value)
    else none)
  changeLines f.operands (withoutTabs t (f.has 'i') 0)

/-- Replaces blanks by tabs. -/
def unexpand (args : List String) : Act Unit := do
  let f ← options {
    letters := "at:,0123456789"
    names := [("all", 'a', .nothing), ("first-only", 'f', .nothing), ("tabs", 't', .value)] } args
  let digits := (f.options.map (·.1)).filter fun c => c.isDigit || c = ','
  let t ← tabStops (f.values 't' ++ if digits.isEmpty then [] else [String.ofList digits])
  let whole := (f.has 'a' || f.has 't') && !f.has 'f'
  changeLines f.operands (withTabs t whole {})

end RemoteAttach.Tool
