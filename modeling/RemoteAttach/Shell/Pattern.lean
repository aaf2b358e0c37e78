import RemoteAttach.Text.Regex

/-! Patterns of the shell: a star stands for any run of characters, a question mark for one, and
brackets for one of a set. Quoted characters stand for themselves, and so does a character after a
backslash. A pattern is a regular expression for the whole of a text. -/

namespace RemoteAttach.Shell

/-- A character of a word, and whether it is quoted. -/
structure Glyph where
  char : Char
  quoted : Bool
  deriving DecidableEq, Repr

/-- The text of some glyphs. -/
def Glyph.text (glyphs : List Glyph) : String :=
  String.ofList (glyphs.map (·.char))

/-- A pattern. -/
abbrev Pattern := Regex

namespace Pattern

/-- What patterns may hold. -/
structure Form where
  /-- A caret in brackets negates, and classes of characters that sort alike may stand there. -/
  rich : Bool := false
  /-- Groups of patterns may be repeated or excluded. -/
  groups : Bool := false

/-- The ranges of a set up to its closing bracket, and what follows that bracket. -/
def ranges? (rich : Bool) : Nat → Bool → List Glyph → Option (List (Char × Char) × List Glyph)
  | 0, _, _ | _, _, [] => none
  | fuel + 1, first, a :: rest =>
    if a.char = ']' && !a.quoted && !first then some ([], rest)
    else
      let named := match a, rest with
        | ⟨'[', false⟩, ⟨':', false⟩ :: more =>
          let name := more.takeWhile fun g => g.char ≠ ':' && g.char ≠ ']'
          match more.drop name.length with
          | ⟨':', _⟩ :: ⟨']', _⟩ :: after =>
            (CharSet.classRanges? (Glyph.text name)).map fun ranges => (ranges, after)
          | _ => none
        | ⟨'[', false⟩, ⟨d, false⟩ :: c :: ⟨e, _⟩ :: ⟨']', _⟩ :: after =>
          if rich && (d = '.' || d = '=') && e = d then some ([(c.char, c.char)], after) else none
        | _, _ => none
      match named with
      | some (ranges, after) =>
        (ranges? rich fuel false after).map fun (more, rest) => (ranges ++ more, rest)
      | none =>
        let (a, rest) := match a, rest with
          | ⟨'\\', false⟩, b :: rest => (b, rest)
          | _, _ => (a, rest)
        match rest with
        | ⟨'-', false⟩ :: b :: after =>
          if b.char = ']' && !b.quoted then some ([(a.char, a.char), ('-', '-')], after)
          else
            (ranges? rich fuel false after).map fun (more, rest) =>
              ((a.char, b.char) :: more, rest)
        | _ => (ranges? rich fuel false rest).map fun (more, rest) =>
            ((a.char, a.char) :: more, rest)

/-- The set at the start of some glyphs, which follow an opening bracket, and what follows it. -/
def set? (form : Form) (glyphs : List Glyph) : Option (CharSet × List Glyph) :=
  let negated := match glyphs with
    | ⟨c, false⟩ :: _ => c = '!' || (form.rich && c = '^')
    | _ => false
  let inside := if negated then glyphs.drop 1 else glyphs
  (ranges? form.rich (inside.length + 1) true inside).map fun (ranges, rest) =>
    (⟨ranges, negated⟩, rest)

/-- The glyph may begin a group of patterns. -/
def beginsGroup (g : Glyph) : Bool :=
  !g.quoted && ['?', '*', '+', '@', '!'].contains g.char

/-- What a group of patterns stands for, by the character before it. -/
def ofGroup (kind : Char) (choices : List Regex) : Regex :=
  let any := match choices with
    | first :: rest => rest.foldl .alt first
    | [] => .empty
  match kind with
  | '?' => any.optional
  | '*' => .star any
  | '+' => any.repeated 1 none
  | '!' => .except any
  | _ => any

/-- The choices of patterns up to the end of a group, or of all glyphs, and what follows. -/
def choicesFrom (form : Form) (inGroup : Bool) : Nat → List Glyph → List Regex × List Glyph
  | 0, glyphs => ([.empty], glyphs)
  | fuel + 1, glyphs =>
    let before := fun (r : Regex) (rest : List Glyph) =>
      match choicesFrom form inGroup fuel rest with
      | (first :: others, rest) =>
        ((match first with
          | .empty => r
          | first => .seq r first) :: others, rest)
      | ([], rest) => ([r], rest)
    match glyphs with
    | [] => ([.empty], [])
    | g :: rest =>
      if g.quoted then before (.char g.char) rest
      else
        match g.char, rest with
        | ')', _ => if inGroup then ([.empty], rest) else before (.char ')') rest
        | '|', _ =>
          if inGroup then
            let (choices, rest) := choicesFrom form inGroup fuel rest
            (.empty :: choices, rest)
          else before (.char '|') rest
        | '\\', b :: rest => before (.char b.char) rest
        | c, ⟨'(', false⟩ :: inside =>
          if form.groups && beginsGroup g then
            let (choices, rest) := choicesFrom form true fuel inside
            before (ofGroup c choices) rest
          else plain before c rest
        | c, _ => plain before c rest
where
  /-- What one glyph stands for that begins no group. -/
  plain (before : Regex → List Glyph → List Regex × List Glyph) (c : Char) (rest : List Glyph) :
      List Regex × List Glyph :=
    match c with
    | '*' => before (.star (.oneOf .all)) rest
    | '?' => before (.oneOf .all) rest
    | '[' =>
      match set? form rest with
      | some (s, rest) => before (.oneOf s) rest
      | none => before (.char '[') rest
    | c => before (.char c) rest

/-- The pattern that some glyphs write. -/
def ofGlyphs (form : Form) (glyphs : List Glyph) : Pattern :=
  ((choicesFrom form false (glyphs.length + 1) glyphs).1.head?).getD .empty

/-- The glyphs stand for more than one text. -/
def isOpen (form : Form) : List Glyph → Bool
  | [] => false
  | g :: rest =>
    !g.quoted && (g.char = '*' || g.char = '?' || (g.char = '[' && (set? form rest).isSome) ||
      (form.groups && beginsGroup g && rest.head? = some ⟨'(', false⟩)) || isOpen form rest

/-- The text of some glyphs that stand for it alone. -/
def plainText : List Glyph → List Char
  | ⟨'\\', false⟩ :: g :: rest => g.char :: plainText rest
  | g :: rest => g.char :: plainText rest
  | [] => []

/-- The pattern stands for the whole text. -/
def matches? (p : Pattern) (text : List Char) : Bool :=
  Regex.accepts p text.toArray

/-- The text without a start that the pattern stands for: the shortest one, or the longest. -/
def dropStart (p : Pattern) (longest : Bool) (text : List Char) : List Char :=
  match (p.reach text.toArray false ⟨0, []⟩).map (·.position) with
  | place :: more => text.drop (more.foldl (if longest then max else min) place)
  | [] => text

/-- The text without an end that the pattern stands for: the shortest one, or the longest. -/
def withoutEnd? (p : Pattern) (longest : Bool) (text : List Char) : Option (List Char) :=
  let all := text.toArray
  let starts := List.range (text.length + 1)
  let fits := fun start => (p.farthest? all start).any (·.position = all.size)
  ((if longest then starts else starts.reverse).find? fits).map text.take

/-- The text without an end that the pattern stands for, if there is one. -/
def dropEnd (p : Pattern) (longest : Bool) (text : List Char) : List Char :=
  (p.withoutEnd? longest text).getD text

/-- Several texts without a start that the pattern stands for, for a shell that looks no further
than the end of the first one, and drops all of them together with that one. -/
def dropStartOfAll (p : Pattern) (longest : Bool) : List String → List String
  | [] => []
  | first :: rest =>
    if longest && p.matches? first.toList then [""]
    else String.ofList (p.dropStart longest first.toList) :: rest

/-- Several texts without an end that the pattern stands for, and without all that follows it. The
shortest end is looked for from the last text on; the longest one only in the first text. -/
def dropEndOfAll (p : Pattern) (longest : Bool) (texts : List String) : List String :=
  if longest then
    match texts.head?.bind fun first => p.withoutEnd? true first.toList with
    | some text => [String.ofList text]
    | none => texts
  else lastFirst texts.reverse
where
  /-- The texts, which are given in reverse. -/
  lastFirst : List String → List String
    | [] => texts
    | last :: before =>
      match p.withoutEnd? false last.toList with
      | some text => before.reverse ++ [String.ofList text]
      | none => lastFirst before

/-- The text with what matches the pattern replaced, from a position on: once, or everywhere. A
replacement is a function of what it replaces. -/
def replaceFrom (p : Pattern) (text : Array Char) (everywhere : Bool)
    (replacement : List Char → List Char) : Nat → Nat → List Char
  | 0, start => (text.extract start text.size).toList
  | fuel + 1, start =>
    match p.find? text start with
    | none => (text.extract start text.size).toList
    | some m =>
      if m.stop = m.start then (text.extract start text.size).toList
      else
        (text.extract start m.start).toList ++
          replacement (text.extract m.start m.stop).toList ++
          (if everywhere then replaceFrom p text everywhere replacement fuel m.stop
            else (text.extract m.stop text.size).toList)

end Pattern

end RemoteAttach.Shell
