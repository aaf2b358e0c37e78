/-! Regular expressions over texts. A match is found from the left, and is the longest one that
begins where it does. Of the ways to match so much, the groups tell of the preferred one: the first
alternative goes before the others, and more repetitions go before fewer. The places that a match
may reach are kept as a list without repetitions, the preferred one first, so that the work grows
with the text and not with the number of ways to match. -/

namespace RemoteAttach

/-- A set of characters: those in some ranges, or those in none of them. -/
structure CharSet where
  ranges : List (Char × Char)
  negated : Bool := false
  deriving DecidableEq, Repr

namespace CharSet

/-- The character belongs to the set. -/
def contains (s : CharSet) (c : Char) : Bool :=
  s.negated != s.ranges.any fun (low, high) => low ≤ c && c ≤ high

/-- The set of one character. -/
def one (c : Char) : CharSet := ⟨[(c, c)], false⟩

/-- The set of all characters. -/
def all : CharSet := ⟨[], true⟩

/-- The ranges of a class of characters, by the name of the class. -/
def classRanges? : String → Option (List (Char × Char))
  | "alpha" => some [('A', 'Z'), ('a', 'z')]
  | "digit" => some [('0', '9')]
  | "alnum" => some [('A', 'Z'), ('a', 'z'), ('0', '9')]
  | "upper" => some [('A', 'Z')]
  | "lower" => some [('a', 'z')]
  | "space" => some [('\t', '\x0d'), (' ', ' ')]
  | "blank" => some [('\t', '\t'), (' ', ' ')]
  | "punct" => some [('!', '/'), (':', '@'), ('[', '`'), ('\x7b', '~')]
  | "print" => some [(' ', '~')]
  | "graph" => some [('!', '~')]
  | "cntrl" => some [('\x00', '\x1f'), ('\x7f', '\x7f')]
  | "xdigit" => some [('0', '9'), ('A', 'F'), ('a', 'f')]
  | _ => none

/-- The set of the characters that words are made of. -/
def word (negated : Bool := false) : CharSet :=
  ⟨[('A', 'Z'), ('a', 'z'), ('0', '9'), ('_', '_')], negated⟩

/-- The set of blank characters. -/
def space (negated : Bool := false) : CharSet :=
  ⟨[('\t', '\x0d'), (' ', ' ')], negated⟩

/-- The set with the other letter case of each of its letters. -/
def foldCase (s : CharSet) : CharSet :=
  let shift := fun (low high : Char) (range : Char × Char) (toUpper : Bool) =>
    let a := if low ≤ range.1 then range.1 else low
    let b := if range.2 ≤ high then range.2 else high
    let move := fun (c : Char) => Char.ofNat (if toUpper then c.toNat - 32 else c.toNat + 32)
    if a ≤ b then [(move a, move b)] else []
  { s with ranges := s.ranges.flatMap fun range =>
      range :: (shift 'a' 'z' range true ++ shift 'A' 'Z' range false) }

end CharSet

/-- A condition on a place in a text. -/
inductive Anchor where
  | textStart
  | textEnd
  | lineStart
  | lineEnd
  | wordStart
  | wordEnd
  | wordEdge
  | wordInside
  deriving DecidableEq, Repr

/-- A regular expression. -/
inductive Regex where
  | empty
  | oneOf (accepted : CharSet)
  | anchor (condition : Anchor)
  | seq (first second : Regex)
  | alt (first second : Regex)
  | star (inner : Regex)
  /-- A part whose text is kept. One that may be missing keeps what it stood for before when it
  stands for nothing. -/
  | group (index : Nat) (inner : Regex) (spare : Bool)
  /-- What a group stands for, once more. -/
  | back (index : Nat)
  /-- Every text that the inner expression does not stand for. -/
  | except (inner : Regex)
  deriving Repr

namespace Regex

/-- A place in a text that a match has reached, and where the groups before it begin and end. -/
structure Place where
  position : Nat
  groups : List (Nat × Nat × Nat) := []
  deriving DecidableEq, Repr

/-- A character of a text belongs to a word. -/
def isWordAt (text : Array Char) (position : Nat) : Bool :=
  text[position]?.any CharSet.word.contains

/-- The condition holds at a position of a text. -/
def holds (text : Array Char) (position : Nat) : Anchor → Bool
  | .textStart => position = 0
  | .textEnd => position = text.size
  | .lineStart => position = 0 || text[position - 1]? = some '\n'
  | .lineEnd => position = text.size || text[position]? = some '\n'
  | .wordStart => !isBefore && isAfter
  | .wordEnd => isBefore && !isAfter
  | .wordEdge => isBefore != isAfter
  | .wordInside => isBefore == isAfter
where
  isBefore : Bool := 0 < position && isWordAt text (position - 1)
  isAfter : Bool := isWordAt text position

/-- Two places are the same. Where groups are looked back at, they have to be the same too. -/
def same (exact : Bool) (p q : Place) : Bool :=
  p.position = q.position && (!exact || p.groups = q.groups)

/-- The places of two lists, without those of the second that are in the first. -/
def union (exact : Bool) (found more : List Place) : List Place :=
  if found.isEmpty then more
  else found ++ more.filter fun p => !found.any (same exact p)

/-- The places that any number of steps leads to, after those that have been found before, the last
one first. Further steps are preferred to fewer. -/
def explore (exact : Bool) (step : Place → List Place) : Nat → Place → List Place → List Place
  | 0, _, found => found
  | fuel + 1, p, found =>
    p :: (step p).foldl (fun found q =>
      if q.position ≤ p.position || found.any (same exact q) then found
      else explore exact step fuel q found) found

/-- The number of characters of a set from a position on. -/
def runLength (text : Array Char) (s : CharSet) : Nat → Nat → Nat
  | 0, _ => 0
  | fuel + 1, position =>
    if text[position]?.any s.contains then runLength text s fuel (position + 1) + 1 else 0

/-- The places that a match from a place may reach. The first alternative is preferred to the
second, an empty one is the last, and further repetitions are preferred to fewer. -/
def reach (text : Array Char) (exact : Bool) : Regex → Place → List Place
  | empty, p => [p]
  | oneOf s, p =>
    if text[p.position]?.any s.contains then [{ p with position := p.position + 1 }] else []
  | anchor condition, p => if holds text p.position condition then [p] else []
  | seq first second, p =>
    match reach text exact first p with
    | [q] => reach text exact second q
    | places => places.foldl (fun found q => union exact found (reach text exact second q)) []
  | alt first second, p =>
    union exact (reach text exact first p) (reach text exact second p)
  | star (oneOf s), p =>
    let most := runLength text s (text.size - p.position) p.position
    (List.range (most + 1)).reverse.map fun n => { p with position := p.position + n }
  | star inner, p =>
    (explore exact (fun q => reach text exact inner q) (text.size - p.position + 1) p []).reverse
  | group index inner spare, p =>
    (reach text exact inner p).map fun q =>
      if spare && q.position = p.position && p.groups.any fun (i, _) => i = index then p
      else
        { q with groups :=
            (index, p.position, q.position) :: q.groups.filter fun (i, _) => i ≠ index }
  | back index, p =>
    match p.groups.find? fun (i, _) => i = index with
    | none => []
    | some (_, start, stop) =>
      let wanted := text.extract start stop
      if text.extract p.position (p.position + wanted.size) = wanted then
        [{ p with position := p.position + wanted.size }]
      else []
  | except inner, p =>
    let taken := (reach text exact inner p).map (·.position)
    ((List.range (text.size - p.position + 1)).reverse.map (p.position + ·)).filterMap fun i =>
      if taken.contains i then none else some { p with position := i }

/-- The expression looks back at its groups. -/
def looksBack : Regex → Bool
  | back _ => true
  | seq first second | alt first second => first.looksBack || second.looksBack
  | star inner | group _ inner _ | except inner => inner.looksBack
  | empty | oneOf _ | anchor _ => false

/-- The farthest place that a match from a position may reach, in the preferred way. -/
def farthest? (r : Regex) (text : Array Char) (start : Nat) : Option Place :=
  (r.reach text r.looksBack ⟨start, []⟩).foldl (fun best p =>
    match best with
    | none => some p
    | some q => if q.position < p.position then some p else best) none

/-- The expression stands for the whole text. -/
def accepts (r : Regex) (text : Array Char) : Bool :=
  (r.farthest? text 0).any (·.position = text.size)

/-- A part of a text that an expression stands for. -/
structure Match where
  start : Nat
  stop : Nat
  groups : List (Nat × Nat × Nat)
  deriving DecidableEq, Repr

/-- The text of a group of a match, which is empty if the group has no part in it. Group zero is
the whole match. -/
def Match.group (m : Match) (text : Array Char) (index : Nat) : List Char :=
  if index = 0 then (text.extract m.start m.stop).toList
  else
    match m.groups.find? fun (i, _) => i = index with
    | some (_, start, stop) => (text.extract start stop).toList
    | none => []

/-- The first match that begins at a position or after it. -/
def findFrom (r : Regex) (text : Array Char) : Nat → Nat → Option Match
  | 0, _ => none
  | fuel + 1, start =>
    match r.farthest? text start with
    | some p => some ⟨start, p.position, p.groups⟩
    | none => findFrom r text fuel (start + 1)

/-- The first match that begins at a position or after it. -/
def find? (r : Regex) (text : Array Char) (start : Nat) : Option Match :=
  r.findFrom text (text.size + 1 - start) start

/-- The expression stands for some part of the text. -/
def occursIn (r : Regex) (text : Array Char) : Bool :=
  (r.find? text 0).isSome

/-- The expression that does not tell the letter cases apart. -/
def foldCase : Regex → Regex
  | oneOf s => oneOf s.foldCase
  | seq first second => seq first.foldCase second.foldCase
  | alt first second => alt first.foldCase second.foldCase
  | star inner => star inner.foldCase
  | group index inner spare => group index inner.foldCase spare
  | except inner => except inner.foldCase
  | r => r

/-- The expression that stands for one character. -/
def char (c : Char) : Regex := oneOf (.one c)

/-- The expression that stands for one text. -/
def ofText (text : List Char) : Regex :=
  text.foldr (fun c r => match r with
    | .empty => char c
    | r => seq (char c) r) empty

/-- A repetition of the expression that may be missing. -/
def spared : Regex → Regex
  | group index inner _ => group index inner true
  | r => r

/-- The expression, or nothing. -/
def optional (r : Regex) : Regex := alt r.spared empty

/-- Any number of repetitions of the expression. -/
def anyNumber (r : Regex) : Regex := star r.spared

/-- Two alternatives. If the first one is empty, it goes behind the next one. -/
def either : Regex → Regex → Regex
  | empty, alt second third => alt second (alt empty third)
  | empty, second => alt second empty
  | first, second => alt first second

/-- Some repetitions of an expression, up to a number or any number of them. One more of them is
preferred to any choice among fewer. -/
def repeated (r : Regex) (least : Nat) (most : Option Nat) : Regex :=
  let more := match most with
    | none => r.anyNumber
    | some most => (List.range (most - least)).foldl (fun inner _ => match inner with
        | empty => r.optional
        | inner => optional (seq inner r.spared)) empty
  (List.range least).foldl (fun inner _ => match inner with
    | empty => r
    | inner => seq r inner) more

/-- The number of groups in an expression. -/
def groupCount : Regex → Nat
  | group index inner _ => max index inner.groupCount
  | seq first second | alt first second => max first.groupCount second.groupCount
  | star inner | except inner => inner.groupCount
  | empty | oneOf _ | anchor _ | back _ => 0

end Regex

end RemoteAttach
