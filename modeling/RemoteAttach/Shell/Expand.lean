import RemoteAttach.Shell.Declaration
import RemoteAttach.Shell.Prompt
import RemoteAttach.Shell.Reader
import RemoteAttach.Shell.Variables
import RemoteAttach.Files.Program

/-! The expansion of words: the values of parameters and what is made of them, the output of
scripts, arithmetic and home folders. What stands inside a word may be a whole script, so that each
expansion is given runners for what lies one level deeper. -/

namespace RemoteAttach.Shell

/-- How a word is expanded. -/
structure Mode where
  /-- Its literal text is cut into fields like that of a value. -/
  loose : Bool := false
  /-- It becomes fields, and not one text. -/
  fields : Bool := true

/-- Runners for what lies one level deeper. -/
structure Runner where
  expand : Mode → Word → Act (List Atom)
  statements : List Statement → Act Unit
  command : Command → Act Unit
  /-- What a script writes to its output in a process of its own. -/
  capture : List Statement → Act (List Char)
  /-- Runs a script in the form of a text. -/
  script : Source → Act Unit
  /-- Runs a program in a process of its own, with an environment and arguments. -/
  program : List (String × String) → Program → List String → Act Unit

/-- A runner that gives up at once. -/
def Runner.none : Runner :=
  let stop := fun {α : Type} => (throw .endless : Act α)
  ⟨fun _ _ => stop, fun _ => stop, fun _ => stop, fun _ => stop, fun _ => stop,
    fun _ _ _ => stop⟩

namespace Expand

open Act

/-- The home folder of a user, or of the one that the shell runs for. -/
def home? (s : State) (user : List Char) : Option String :=
  if user.isEmpty then
    match s.text? "HOME", s.dialect with
    | some home, _ => some home
    | none, .bash => some "/root"
    | none, .dash => none
  else if user = "root".toList then some "/root"
  else if s.dialect = .dash then none
  else if user = ['+'] then some s.folderText
  else if user = ['-'] then s.text? "OLDPWD"
  else if user.all Char.isDigit then
    (s.folderText :: s.folderStack)[(String.ofList user).toNat?.getD 0]?
  else none

/-- A word whose leading tilde is replaced by a home folder. -/
def withHome (s : State) : Word → Word
  | .literal ('~' :: text) false :: rest =>
    let user := text.takeWhile (· ≠ '/')
    let after := text.drop user.length
    match (if after.isEmpty && !rest.isEmpty then none else home? s user) with
    | some home =>
      .literal home.toList true :: (if after.isEmpty then rest else .literal after false :: rest)
    | none => .literal ('~' :: text) false :: rest
  | word => word

/-- The parts of a word between its colons. -/
def segments : Word → List Word
  | [] => [[]]
  | part :: rest =>
    match part, segments rest with
    | .literal text false, first :: others =>
      match (Text.pieces [':'] text).reverse with
      | last :: before =>
        let pieces := before.reverse.map fun piece => [Part.literal piece false]
        pieces ++ (if last.isEmpty then first else .literal last false :: first) :: others
      | [] => first :: others
    | part, first :: others => (part :: first) :: others
    | part, [] => [[part]]

/-- A word in which each path between colons may begin with a home folder. -/
def withHomes (s : State) (word : Word) : Word :=
  let paths := (segments word).map (withHome s)
  (List.intercalate [Part.literal [':'] false] paths).foldr Reading.consPart []

/-- The atoms of some text, as the value of a parameter. -/
def atomsOf (mode : Mode) (quoted : Bool) (held : Held) : Act (List Atom) := do
  let s ← get
  let held := match held, s.dialect with
    | .all texts false, .dash => if mode.fields then held else .all texts true
    | held, _ => held
  pure (held.atoms s.dialect s.separators mode.fields quoted)

/-- The text of a word that is not cut into fields. -/
def textOf (r : Runner) (word : Word) : Act String := do
  pure (Glyph.text (Atom.glyphs (← r.expand { fields := false } word)))

/-- The pattern that a word writes. -/
def patternOf (r : Runner) (word : Word) : Act Pattern := do
  let glyphs := Atom.glyphs (← r.expand { fields := false } word)
  pure (Pattern.ofGlyphs (← get).patternForm glyphs)

/-- The value of an arithmetic expression that a word writes. -/
def numberOf (r : Runner) (word : Word) : Act Int := do
  arithmetic (← textOf r word)

/-- The texts of a list, or of the one value that a name has. -/
def listOf (s : State) (name : String) : List String :=
  match s.value? (s.meant name 10) with
  | some value => value.texts
  | none =>
    match s.parameter name with
    | .one text => [text]
    | _ => []

/-- What a part of a word looks at. -/
def heldBy (r : Runner) (target : Target) : Act Held := do
  let s ← get
  match target with
  | .named name => pure (s.parameter name)
  | .pointed name =>
    match (s.lookup name).filter (·.points) with
    | some v => pure (v.value.elim .nothing fun value => .one value.firstText)
    | none =>
      match s.parameter name with
      | .one target => followed s target
      | _ => fail (name ++ ": invalid indirect expansion")
  | .names start joined =>
    let names := (s.vars.map (·.1)).filter fun name => name.startsWith start
    pure (.all (names.mergeSort fun a b => a ≤ b) joined)
  | .keys name joined =>
    match s.value? (s.meant name 10) with
    | some value => pure (.all value.keys joined)
    | none => pure (.all [] joined)
  | .element name key =>
    match key with
    | [.literal ['@'] false] => pure (.all (listOf s name) false)
    | [.literal ['*'] false] => pure (.all (listOf s name) true)
    | _ => item s name (← textOf r key)
where
  /-- What a parameter or an item holds whose name is a value. -/
  followed (s : State) (target : String) : Act Held := do
    match Text.cutAt '[' target.toList with
    | some (list, key) =>
      let key := String.ofList (key.takeWhile (· ≠ ']'))
      if key = "@" || key = "*" then pure (.all (listOf s (String.ofList list)) (key = "*"))
      else item s (String.ofList list) key
    | none =>
      let isSpecial := match target.toList with
        | [c] => Reading.isSpecial c
        | _ => false
      if isName target || isSpecial || target.toNat?.isSome then pure (s.parameter target)
      else fail (target ++ ": invalid variable name")
  /-- The item of a list with a key. -/
  item (s : State) (name key : String) : Act Held := do
    match s.value? (s.meant name 10) with
    | some (.table items) => pure ((items.lookup key).elim .nothing .one)
    | held => do
      let items := itemsOf held
      let n ← arithmetic key
      pure (((placeIn items n).bind fun n => items.lookup n).elim .nothing .one)

/-- The name of what a part of a word looks at, for complaints. -/
def nameOf (target : Target) : String :=
  match target with
  | .named name | .pointed name | .keys name _ | .names name _ => name
  | .element name key =>
    name ++ "[" ++ String.join (key.map fun part => match part with
      | .literal text _ => String.ofList text
      | _ => "") ++ "]"

/-- The part of a text or of several texts from a place on, with a length if it is given. Numbers
below zero count from the end. -/
def slice {α : Type} (all : List α) (start : Int) (length : Option Int) : Option (List α) :=
  let size : Int := all.length
  let first := if start < 0 then size + start else start
  let last := match length with
    | none => size
    | some n => if n < 0 then size + n else first + n
  if first < 0 || size < first then some []
  else if last < first then none
  else some ((all.drop first.toNat).take (last - first).toNat)

/-- The text in a form that the shell reads again, as a letter asks for it. -/
def formed (letter : Char) (text : String) : String :=
  match letter with
  | 'U' => text.map Char.toUpper
  | 'L' => text.map Char.toLower
  | 'u' => String.ofList (match text.toList with
      | c :: rest => c.toUpper :: rest
      | [] => [])
  | 'Q' => "'" ++ text.replace "'" "'\\''" ++ "'"
  | 'E' => ((Reading.dollarQuoted 0 (text.toList ++ ['\''])).map fun (text, _) =>
      String.ofList text).getD text
  | _ => text

/-- The text with the case of its letters changed where a pattern accepts them. -/
def recased (how : CaseChange) (everywhere : Bool) (pattern : Option Pattern) (text : String) :
    String :=
  let change := fun (c : Char) =>
    if pattern.all fun p => p.matches? [c] then
      match how with
      | .raise => c.toUpper
      | .lower => c.toLower
      | .turn => if c.isUpper then c.toLower else c.toUpper
    else c
  String.ofList (match text.toList with
    | c :: rest => change c :: (if everywhere then rest.map change else rest)
    | [] => [])

/-- The text that takes the place of another one. An ampersand stands for that one, unless it is
quoted or has a backslash before it; a backslash between two of them quotes the second. -/
def filled (found : List Char) : List Char → List Char
  | '\\' :: '&' :: rest => '&' :: filled found rest
  | '\\' :: '\\' :: rest => '\\' :: filled found rest
  | '&' :: rest => found ++ filled found rest
  | c :: rest => c :: filled found rest
  | [] => []

/-- The text of some glyphs with backslashes before what is quoted and means something to
`filled`. -/
def template (glyphs : List Glyph) : List Char :=
  glyphs.flatMap fun g =>
    if g.quoted && (g.char = '&' || g.char = '\\') then ['\\', g.char] else [g.char]

/-- The text with what a pattern accepts replaced by what `fill` makes of it. -/
def replaced (place : ReplacePlace) (pattern : Pattern) (fill : List Char → List Char)
    (text : List Char) : List Char :=
  let all := text.toArray
  match place with
  | .first => Pattern.replaceFrom pattern all false fill (text.length + 1) 0
  | .everywhere => Pattern.replaceFrom pattern all true fill (text.length + 1) 0
  | .start =>
    match pattern.farthest? all 0 with
    | some p => fill (text.take p.position) ++ text.drop p.position
    | none => text
  | .finish =>
    let starts := List.range (text.length + 1)
    match starts.find? fun i =>
        (pattern.farthest? all i).any (·.position = all.size) with
    | some i => text.take i ++ fill (text.drop i)
    | none => text

/-- What is held, without a start or an end that a pattern stands for. The smaller shell takes
several texts together. -/
def trimmed (s : State) (together atStart longest : Bool) (pattern : Pattern) (held : Held) :
    Held :=
  let trim := fun (text : String) => String.ofList
    (if atStart then pattern.dropStart longest text.toList
      else pattern.dropEnd longest text.toList)
  match s.dialect, held with
  | .dash, .all [] _ => .one ""
  | .dash, .all texts joined =>
    if together then
      .one (trim (String.intercalate (String.ofList (s.separators.take 1)) texts))
    else
      .all (if atStart then pattern.dropStartOfAll longest texts
        else pattern.dropEndOfAll longest texts) joined
  | _, held => held.map trim

/-- A prompt with what it stands for, in which words are expanded as well. -/
def promptOf (r : Runner) (text : String) : Act String := do
  let s ← get
  let decoded := match s.dialect with
    | .dash => text.toList
    | .bash => Prompt.decoded s (text.length + 1) text.toList
  let source : Source := { rest := decoded, dialect := s.dialect }
  match (Reading.partsOf (Reading.readers 20) .text).run source with
  | .ok (word, _) => textOf r word
  | .error _ => pure (String.ofList decoded)

/-- The atoms of a parameter part. -/
def parameter (r : Runner) (mode : Mode) (target : Target) (change : Change) (quoted : Bool) :
    Act (List Atom) := do
  let s ← get
  let dialect := s.dialect
  let held ← heldBy r target
  let name := nameOf target
  let atoms := atomsOf mode quoted
  let strict := s.on "nounset" && !held.isSet dialect false && (match held, dialect with
    | .all .., _ => false
    | _, _ => true)
  let unset : Act Unit := do
    if strict then
      match dialect with
      | .dash => refuseUnset name "parameter not set"
      | .bash =>
        let shown := if name.toList.any fun c => isNameStart c then name else "$" ++ name
        refuseUnset shown "unbound variable"
  let word := fun (word : Word) => do
    let atoms ← r.expand { mode with loose := !quoted && mode.fields } (withHome s word)
    pure (if quoted && atoms.isEmpty then Atom.ofQuoted [] else atoms)
  let trim := fun (atStart longest : Bool) (w : Word) => do
    if !held.isSet dialect (dialect = .bash) then atoms held
    else
      let together := !mode.fields || quoted && (match held with
        | .all _ joined => joined
        | _ => false)
      atoms (trimmed s together atStart longest (← patternOf r w) held)
  match change with
  | .keep =>
    unset
    atoms held
  | .length =>
    unset
    match held, dialect with
    | .all texts _, .bash => atoms (.one (toString texts.length))
    | .all texts _, .dash =>
      let between := s.separators.take 1
      let size := (List.intercalate between (texts.map String.toList)).length
      atoms (.one (toString size))
    | held, _ => atoms (.one (toString held.text.length))
  | .bad text =>
    match dialect with
    | .dash => fail "Bad substitution"
    | .bash => fail (text ++ ": bad substitution")
  | .unclosed => fail ("bad substitution: no closing `)' in " ++ name)
  | .useUnless filled w => if held.isSet dialect filled then atoms held else word w
  | .useIf filled w =>
    if held.isSet dialect filled then word w else atoms (if quoted then .one "" else .nothing)
  | .assignUnless filled w =>
    if held.isSet dialect filled then atoms held
    else
      let value ← textOf r (withHome s w)
      match target with
      | .named name =>
        if isName name then assign name value
        else
          match dialect with
          | .dash => fail (name ++ ": bad variable name")
          | .bash => fail ("$" ++ name ++ ": cannot assign in this way")
      | .element name key => assignItem name (← textOf r key) value false
      | _ => pure ()
      atoms (.one value)
  | .requireUnless filled w =>
    if held.isSet dialect filled then atoms held
    else
      let text ← textOf r (withHome s w)
      let usual := match dialect with
        | .dash => if filled then "parameter not set or null" else "parameter not set"
        | .bash => if filled then "parameter null or not set" else "parameter not set"
      refuseUnset name (if w.isEmpty then usual else text)
  | .dropStart longest w =>
    unset
    trim true longest w
  | .dropEnd longest w =>
    unset
    trim false longest w
  | .replace place w v =>
    unset
    let pattern ← patternOf r w
    let glyphs := Atom.glyphs (← r.expand { fields := false } v)
    let fill := fun (found : List Char) =>
      if s.on "patsub_replacement" then filled found (template glyphs)
      else (Glyph.text glyphs).toList
    atoms (held.map fun text => String.ofList (replaced place pattern fill text.toList))
  | .slice start length =>
    unset
    let builtin := s.builtin
    if dialect = .bash then modify fun s => { s with builtin := some name }
    let numbers ← observe do
      let start ← numberOf r start
      match length with
      | some length => do pure (start, some (← numberOf r length))
      | none => pure (start, none)
    modify fun s => { s with builtin }
    let (start, length) ← conclude numbers
    match held with
    | .all texts joined =>
      let texts := match target with
        | .named _ => s.name :: texts
        | _ => texts
      match slice texts start length with
      | some texts => atoms (.all texts joined)
      | none => fail (toString (length.getD 0) ++ ": substring expression < 0")
    | held =>
      match slice held.text.toList start length with
      | some text => atoms (match held with
          | .nothing => .nothing
          | _ => .one (String.ofList text))
      | none => fail (toString (length.getD 0) ++ ": substring expression < 0")
  | .recase how everywhere w =>
    unset
    let pattern ← if w.isEmpty then pure none else do pure (some (← patternOf r w))
    atoms (held.map (recased how everywhere pattern))
  | .form letter =>
    unset
    let isSet := held.isSet dialect false
    if isSet && !"ULuQEPAKak".toList.contains letter then
      fail ("$\x7b" ++ name ++ "@" ++ letter.toString ++ "\x7d: bad substitution")
    else
      let owner := match target with
        | .named name | .element name _ => name
        | _ => ""
      match letter, s.lookup (s.meant owner 10) with
      | 'P', _ =>
        match held with
        | .one text => atoms (.one (← promptOf r text))
        | held => atoms held
      | 'a', some v => atoms (.one (v.marks))
      | 'A', some v =>
        if v.value.isNone then atoms .nothing
        else
          match held, v.value with
          | .all .., some (.items _) | .all .., some (.table _) =>
            atoms (.one (v.declaration owner))
          | held, _ =>
            let start := if v.marks.isEmpty then "" else "declare -" ++ v.marks ++ " "
            atoms (.one (start ++ owner ++ "=" ++ formed 'Q' held.text))
      | 'a', none | 'A', none => atoms .nothing
      | letter, _ =>
        let letter := if letter = 'K' || letter = 'k' then 'Q' else letter
        atoms (held.map (formed letter))

/-- The atoms of a part of a word. -/
def part (r : Runner) (mode : Mode) (p : Part) : Act (List Atom) := do
  match p with
  | .literal text quoted =>
    pure (if quoted then Atom.ofQuoted text
      else if mode.loose then text.map .loose
      else text.map fun c => .fixed ⟨c, false⟩)
  | .output begin script quoted =>
    let before ← get
    let isRich := before.dialect = .bash
    if isRich then modify fun s => { s with shift := (s.line : Int) - begin }
    let text ← r.capture script
    if isRich && text.contains '\x00' then
      complain "warning: command substitution: ignored null byte in input"
    modify fun s => { s with
      shift := before.shift
      substituted := some s.status
      status := if isRich then s.status else before.status }
    let text := text.filter (· ≠ '\x00')
    let text := (text.reverse.dropWhile (· = '\n')).reverse
    atomsOf mode quoted (.one (String.ofList text))
  | .value expression quoted =>
    atomsOf mode quoted (.one (toString (← numberOf r expression)))
  | .parameter target change quoted => parameter r mode target change quoted
  | .channel reads script =>
    let number := (((← get).streams.map (·.1)).filter (10 < ·)).foldl min 64 - 1
    if reads then
      let text ← r.capture script
      modify fun s => s.openStream number (.source text false)
    else
      modify fun s =>
        { s.openStream number (.buffer [] none) with
          drains := ⟨s.channels.size, s.streams, script⟩ :: s.drains }
    pure (Atom.ofQuoted ("/dev/fd/" ++ toString number).toList)
  | .items _ => pure []

/-- Atoms without the last mark for a field. -/
def withoutLastHold (atoms : List Atom) : List Atom :=
  let (text, before) := atoms.reverse.span fun atom => !atom matches .hold
  (before.drop 1).reverse ++ text.reverse

/-- The smaller shell takes a part for one that may be cut, even if it is empty: not a parameter
that is not set, or one in whose place a word stands. -/
def mayBeCut (s : State) : Part → Bool
  | .parameter (.named name) change _ =>
    match change with
    | .useUnless filled _ => (s.parameter name).isSet .dash filled
    | .useIf filled _ => !(s.parameter name).isSet .dash filled
    | .assignUnless .. => true
    | _ => (s.parameter name).isSet .dash false
  | _ => true

/-- The atoms of parts of a word. In the smaller shell, what first may be cut behind a quoted list
of all arguments is cut at each separator, and the last argument is no field for its own sake;
`afterAll` tells that there was such a list. -/
def parts (r : Runner) (mode : Mode) (afterAll : Bool) : List Part → Act (List Atom)
  | [] => pure (if afterAll then [.hold] else [])
  | p :: rest => do
    let before ← get
    let atoms ← part r mode p
    let s ← get
    let isDash := s.dialect = .dash && mode.fields
    match p with
    | .parameter (.named "@") change true => do
      let after := isDash && !s.args.isEmpty
      let atoms := if after && change matches .keep then withoutLastHold atoms else atoms
      pure (atoms ++ (← parts r mode (afterAll || after) rest))
    | .parameter _ _ false | .output _ _ false | .value _ false =>
      let isCut := mayBeCut before p || atoms.any (· matches .loose _)
      let atoms := if afterAll then atoms.map Atom.alone else atoms
      pure (atoms ++ (← parts r mode (afterAll && !isCut) rest))
    | _ => pure (atoms ++ (← parts r mode afterAll rest))

/-- The atoms of a word. -/
def word (r : Runner) (mode : Mode) (w : Word) : Act (List Atom) := do
  match w with
  | [p] => part r mode p
  | w => parts r mode false w

end Expand

end RemoteAttach.Shell
