import RemoteAttach.Text.Numeral
import RemoteAttach.Tool.Sed.Script

/-! Reading scripts of the stream editor. A script may come in several parts, and a command that
takes a text may go on from one part into the next. -/

namespace RemoteAttach.Tool.Sed

/-- How scripts are read. -/
structure Dialect where
  extended : Bool := false
  /-- Lines end with line ends, and not with zero characters. -/
  byLines : Bool := true
  /-- Commands that run others or use files are refused. -/
  sandboxed : Bool := false

/-- What is left of a part of a script, and what has been read of the script so far. -/
structure Unread where
  rest : List Char := []
  /-- The number of characters of this part that have been read. -/
  position : Nat := 0
  /-- The number of line ends among them. -/
  line : Nat := 0
  script : Script := {}
  /-- The indices of the blocks that are open, the last one first. -/
  blocks : List Nat := []
  /-- The line where the last block was opened. -/
  blockLine : Nat := 0
  /-- The last command still waits for the rest of its text. -/
  pending : Option (List Char) := none
  dialect : Dialect := {}

/-- Reads from a script. -/
abbrev Reading := EStateM Fault Unread

namespace Reading

/-- The next character, which is then passed. -/
def next? : Reading (Option Char) := do
  let u ← get
  match u.rest with
  | [] => pure none
  | c :: rest =>
    set { u with
      rest, position := u.position + 1, line := if c = '\n' then u.line + 1 else u.line }
    pure (some c)

/-- The next character, which is not passed. -/
def peek? : Reading (Option Char) := do
  pure (← get).rest.head?

/-- Passes some characters, none of which ends a line. -/
def skip (count : Nat) : Reading Unit :=
  modify fun u => { u with rest := u.rest.drop count, position := u.position + count }

/-- A blank within a line. -/
def isBlank (c : Char) : Bool :=
  c = ' ' || c = '\t'

/-- A blank or a line end. -/
def isSpace (c : Char) : Bool :=
  c = ' ' || ('\t' ≤ c && c ≤ '\x0d')

/-- Passes blanks. -/
def skipBlanks : Reading Unit := do
  skip ((← get).rest.takeWhile isBlank).length

/-- Reads a number, which is zero if there are no digits. -/
def number : Reading Nat := do
  let digits := (← get).rest.takeWhile Char.isDigit
  skip digits.length
  pure ((Text.digitsAfter 10 0 digits).getD 0)

/-- Ends a command. -/
def endOfCommand : Reading Unit := do
  skipBlanks
  match ← peek? with
  | some '\x7d' | some '#' => pure ()
  | _ =>
    match ← next? with
    | none | some '\n' | some ';' => pure ()
    | some _ => throw .afterCommand

/-- Reads up to the end of the line. -/
def restOfLine : Reading (List Char) := do
  skipBlanks
  let text := (← get).rest.takeWhile (· ≠ '\n')
  skip text.length
  let _ ← next?
  pure text

/-- Reads the name of a file. -/
def file : Reading String := do
  if (← get).dialect.sandboxed then throw .forbidden
  let text ← restOfLine
  if text.isEmpty then throw .noFile
  pure (String.ofList text)

/-- Reads a label. -/
def label : Reading String := do
  skipBlanks
  let text := (← get).rest.takeWhile fun c =>
    !isSpace c && c ≠ ';' && c ≠ '\x7d' && c ≠ '#'
  skip text.length
  pure (String.ofList text)

/-- The length of a set of characters in brackets, after its opening bracket. -/
def bracketLength (text : List Char) : Nat :=
  let sign := if text.head? = some '^' then 1 else 0
  let first := if (text.drop sign).head? = some ']' then 1 else 0
  go (sign + first) none 0 text
where
  /-- Goes on after `skip` characters, perhaps in a name between marks. -/
  go : Nat → Option Char → Nat → List Char → Nat
    | _, _, count, [] => count
    | skip + 1, name, count, _ :: rest => go skip name (count + 1) rest
    | 0, some mark, count, c :: rest =>
      if c = mark && rest.head? = some ']' then go 1 none (count + 1) rest
      else go 0 (some mark) (count + 1) rest
    | 0, none, count, c :: rest =>
      if c = ']' then count + 1
      else
        match c, rest.head? with
        | '[', some ':' => go 1 (some ':') (count + 1) rest
        | '[', some '.' => go 1 (some '.') (count + 1) rest
        | '[', some '=' => go 1 (some '=') (count + 1) rest
        | _, _ => go 0 none (count + 1) rest

/-- Reads up to a delimiter, which is passed. In an expression the delimiter may stand between
brackets. -/
def delimitedFrom (delimiter : Char) (expression : Bool) :
    Nat → List Char → Reading (Option (List Char))
  | 0, _ => pure none
  | fuel + 1, done => do
    match ← peek? with
    | none | some '\n' => pure none
    | some c =>
      let _ ← next?
      if c = delimiter then pure (some done.reverse)
      else if c = '\\' then
        match ← next? with
        | none => pure none
        | some d =>
          if d = delimiter && !(!expression && d = '&') then
            delimitedFrom delimiter expression fuel (d :: done)
          else if d = '\n' && expression then
            delimitedFrom delimiter expression fuel ('\n' :: done)
          else delimitedFrom delimiter expression fuel (d :: '\\' :: done)
      else if c = '[' && expression then
        let text := (← get).rest
        let inside := text.take (bracketLength text)
        if inside.contains '\n' then pure none
        else
          skip inside.length
          delimitedFrom delimiter expression fuel (protect inside.reverse ++ '[' :: done)
      else delimitedFrom delimiter expression fuel (c :: done)
where
  /-- A delimiter in brackets does not need the backslash that it has. The text is reversed. -/
  protect : List Char → List Char
    | c :: '\\' :: rest => if c = delimiter then c :: protect rest else c :: '\\' :: protect rest
    | c :: rest => c :: protect rest
    | [] => []

/-- Reads up to a delimiter. -/
def delimited (delimiter : Char) (expression : Bool) : Reading (Option (List Char)) := do
  delimitedFrom delimiter expression ((← get).rest.length + 1) []

end Reading

/-- The character that a sequence after a backslash stands for, and the length of the sequence. -/
def escaped? : List Char → Option (Char × Nat)
  | 'a' :: _ => some ('\x07', 1)
  | 'f' :: _ => some ('\x0c', 1)
  | 'n' :: _ => some ('\n', 1)
  | 'r' :: _ => some ('\r', 1)
  | 't' :: _ => some ('\t', 1)
  | 'v' :: _ => some ('\x0b', 1)
  | 'c' :: c :: _ => some (Char.ofNat (c.toUpper.toNat ^^^ 64), 2)
  | 'd' :: rest => numbered 10 3 rest
  | 'o' :: rest => numbered 8 3 rest
  | 'x' :: rest => numbered 16 2 rest
  | _ => none
where
  /-- A character by its number. -/
  numbered (base most : Nat) (text : List Char) : Option (Char × Nat) :=
    let digits := (text.take most).takeWhile fun c => (Text.digitsAfter base 0 [c]).isSome
    if digits.isEmpty then none
    else
      (Text.digitsAfter base 0 digits).map fun n => (Char.ofNat (n % 256), digits.length + 1)

/-- A text in which sequences after backslashes have been replaced. Other backslashes are kept with
what follows them, unless they are to be dropped. -/
def unescaped (drops : Bool) (text : List Char) : List Char :=
  go 0 text
where
  go : Nat → List Char → List Char
    | skip + 1, _ :: rest => go skip rest
    | _, [] => []
    | 0, '\\' :: rest =>
      match escaped? rest with
      | some (c, count) => c :: go count rest
      | none =>
        match rest with
        | [] => if drops then [] else ['\\']
        | c :: _ => if drops then c :: go 1 rest else '\\' :: c :: go 1 rest
    | 0, c :: rest => c :: go 0 rest

/-- The expression within lines: what stands for any character does not stand for a line end. -/
def withinLines : Regex → Regex
  | .oneOf s => .oneOf (if s.negated then { s with ranges := ('\n', '\n') :: s.ranges } else s)
  | .seq first second => .seq (withinLines first) (withinLines second)
  | .alt first second => .alt (withinLines first) (withinLines second)
  | .star inner => .star (withinLines inner)
  | .group index inner spare => .group index (withinLines inner) spare
  | .except inner => .except (withinLines inner)
  | r => r

/-- The expression of a text, with flags for letter case and for lines. An empty text stands for the
last expression that was looked for. -/
def expressionOf (d : Dialect) (text : List Char) (folds lines : Bool) :
    Except Fault (Option Regex) :=
  if text.isEmpty then
    if folds || lines then .error .emptyWithFlags else .ok none
  else
    let form : Regex.Form :=
      { extended := d.extended, strict := true, paired := true, lines := lines && d.byLines }
    let text := unescaped false text
    match Regex.read form text with
    | .error refusal => .error (.expression refusal)
    | .ok r =>
      let r := if folds then r.foldCase else r
      .ok (some (if lines && d.byLines then withinLines r else r))

/-- The pieces of a replacement. `here` is the text that has begun, the last character first; `case`
and `first` tell how letters are changed. -/
def piecesFrom (case : Case) (first : Option Case) (here : List Char) :
    Nat → List Char → List Piece
  | skip + 1, _ :: rest => piecesFrom case first here skip rest
  | _, [] => if here.isEmpty then [] else [⟨here.reverse, none, case, first⟩]
  | 0, '&' :: rest => ⟨here.reverse, some 0, case, first⟩ :: piecesFrom case none [] 0 rest
  | 0, '\\' :: rest =>
    let piece : Piece := ⟨here.reverse, none, case, first⟩
    match escaped? rest with
    | some (c, count) => piecesFrom case first (c :: here) count rest
    | none =>
      match rest with
      | [] => [⟨('\\' :: here).reverse, none, case, first⟩]
      | 'L' :: _ => piece :: piecesFrom .lower none [] 1 rest
      | 'U' :: _ => piece :: piecesFrom .upper none [] 1 rest
      | 'E' :: _ => piece :: piecesFrom .kept none [] 1 rest
      | 'l' :: _ => piece :: piecesFrom case (some .lower) [] 1 rest
      | 'u' :: _ => piece :: piecesFrom case (some .upper) [] 1 rest
      | c :: _ =>
        if c.isDigit then
          { piece with group := some (c.toNat - '0'.toNat) } :: piecesFrom case none [] 1 rest
        else { piece with text := (c :: here).reverse } :: piecesFrom case none [] 1 rest
  | 0, c :: rest => piecesFrom case first (c :: here) 0 rest

/-- The pieces of a replacement. -/
def piecesOf (text : List Char) : List Piece :=
  piecesFrom .kept none [] 0 text

namespace Reading

/-- Reads an expression up to its delimiter. -/
def expression (delimiter : Char) (fault : Fault) : Reading (List Char) := do
  match ← delimited delimiter true with
  | some text => pure text
  | none => throw fault

/-- What an expression stands for. -/
def compiled (text : List Char) (folds lines : Bool) : Reading (Option Regex) := do
  match expressionOf (← get).dialect text folds lines with
  | .ok r => pure r
  | .error fault => throw fault

/-- Reads the flags after the expression of an address: letter case and lines. -/
def addressFlags : Nat → Bool → Bool → Reading (Bool × Bool)
  | 0, folds, lines => pure (folds, lines)
  | fuel + 1, folds, lines => do
    skipBlanks
    match ← peek? with
    | some 'I' =>
      skip 1
      addressFlags fuel true lines
    | some 'M' =>
      skip 1
      addressFlags fuel folds true
    | _ => pure (folds, lines)

/-- Reads an address, if there is one. -/
def address : Reading (Option Address) := do
  match ← peek? with
  | none => pure none
  | some c =>
    if c = '/' || c = '\\' then
      skip 1
      let delimiter ← if c = '\\' then next? else pure (some '/')
      match delimiter with
      | none => throw .openAddress
      | some delimiter =>
        let text ← expression delimiter .openAddress
        let (folds, lines) ← addressFlags ((← get).rest.length + 1) false false
        pure (some (.pattern (← compiled text folds lines)))
    else if c.isDigit then
      let first ← number
      let before ← get
      skipBlanks
      if (← peek?) = some '~' then
        skip 1
        skipBlanks
        let size ← number
        pure (some (if size = 0 then .line first else .step first size))
      else
        set before
        pure (some (.line first))
    else if c = '+' || c = '~' then
      skip 1
      skipBlanks
      let n ← number
      pure (some (if c = '+' then .later n else .multiple n))
    else if c = '$' then
      skip 1
      pure (some .last)
    else pure none

/-- Reads the lines that a command is meant for. -/
def lines : Reading Lines := do
  match ← address with
  | none => pure {}
  | some first =>
    match first with
    | .later _ | .multiple _ => throw .relativeStart
    | _ => pure ()
    skipBlanks
    let second ← if (← peek?) = some ',' then do
        skip 1
        skipBlanks
        match ← address with
        | some second => pure (some second)
        | none =>
          let _ ← next?
          throw .comma
      else pure none
    match first, second with
    | .line 0, some (.pattern _) => pure ()
    | .line 0, _ =>
      skipBlanks
      let _ ← next?
      throw .lineZero
    | _, _ => pure ()
    pure { first := some first, second }

/-- Reads a text up to a line end without a backslash before it. The text is reversed, and comes
with whether it goes on in the next part. -/
def textFrom : Nat → List Char → Reading (List Char × Bool)
  | 0, done => pure (done, false)
  | fuel + 1, done => do
    match ← next? with
    | none | some '\n' => pure ('\n' :: done, false)
    | some '\\' =>
      match ← next? with
      | none => pure ('\n' :: done, true)
      | some c => textFrom fuel (c :: '\\' :: done)
    | some c => textFrom fuel (c :: done)

/-- Puts a text into the last command. -/
def putText (text : List Char) : Reading Unit :=
  modify fun u =>
    let commands := u.script.commands
    match commands.back? with
    | none => u
    | some command =>
      let text := unescaped true text
      let verb := match command.verb with
        | .append _ => .append text
        | .insert _ => .insert text
        | .change _ => .change text
        | .run _ => .run text
        | verb => verb
      { u with script := { u.script with commands := commands.pop.push { command with verb } } }

/-- Reads the text of the last command, of which some may have been read before. -/
def textOf (before : List Char) : Reading Unit := do
  let (text, goesOn) ← textFrom ((← get).rest.length + 1) before
  modify fun u => { u with pending := if goesOn then some text else none }
  putText text.reverse

/-- Reads the flags of a substitution and what ends it. -/
def flags : Nat → Bool → Bool → Substitution → Bool → Reading (Substitution × Bool × Bool)
  | 0, folds, lines, s, _ => pure (s, folds, lines)
  | fuel + 1, folds, lines, s, counted => do
    match ← peek? with
    | none => pure (s, folds, lines)
    | some '\x7d' | some '#' => pure (s, folds, lines)
    | some c =>
      if c.isDigit then
        if counted then
          skip 1
          throw .occurrenceTwice
        let n ← number
        if n = 0 then throw .occurrenceZero
        flags fuel folds lines { s with occurrence := n } true
      else
        let _ ← next?
        match c with
        | '\n' | ';' => pure (s, folds, lines)
        | ' ' | '\t' => flags fuel folds lines s counted
        | 'i' | 'I' => flags fuel true lines s counted
        | 'm' | 'M' => flags fuel folds true s counted
        | 'e' => flags fuel folds lines { s with runs := true } counted
        | 'p' =>
          if s.prints || s.printsBefore then throw .printTwice
          flags fuel folds lines
            (if s.runs then { s with prints := true } else { s with printsBefore := true }) counted
        | 'g' =>
          if s.everywhere then throw .everywhereTwice
          flags fuel folds lines { s with everywhere := true } counted
        | 'w' => pure ({ s with file := some (← file) }, folds, lines)
        | '\r' =>
          match ← next? with
          | some '\n' => pure (s, folds, lines)
          | _ => throw .unknownFlag
        | _ => throw .unknownFlag

/-- Reads a substitution after its letter. -/
def substitution : Reading Verb := do
  match ← next? with
  | none => throw .openSubstitution
  | some delimiter =>
    let text ← expression delimiter .openSubstitution
    match ← delimited delimiter false with
    | none => throw .openSubstitution
    | some replacement =>
      let pieces := piecesOf replacement
      let (s, folds, lines) ← flags ((← get).rest.length + 1) false false
        { expression := none, replacement := pieces } false
      let r ← compiled text folds lines
      let most := (pieces.filterMap (·.group)).foldl max 0
      if r.any fun r => r.groupCount < most then throw (.group most)
      if s.runs && (← get).dialect.sandboxed then throw .forbidden
      let s := if s.runs then s else { s with prints := s.printsBefore, printsBefore := false }
      pure (.substitute { s with expression := r })

/-- Reads a transliteration after its letter. -/
def transliteration : Reading Verb := do
  match ← next? with
  | none => throw .openTransliteration
  | some delimiter =>
    match ← delimited delimiter false with
    | none => throw .openTransliteration
    | some before =>
      match ← delimited delimiter false with
      | none => throw .openTransliteration
      | some after =>
        let old := unescaped true before
        let new := unescaped true after
        if old.length ≠ new.length then throw .lengths
        endOfCommand
        pure (.transliterate (old.zip new))

/-- Adds a command to the script. -/
def add (command : Command) : Reading Unit :=
  modify fun u =>
    { u with script := { u.script with commands := u.script.commands.push command } }

/-- The commands that consist of a letter. -/
def plainVerb? : Char → Option Verb
  | '=' => some .lineNumber
  | 'd' => some .delete
  | 'D' => some .deleteLine
  | 'F' => some .fileName
  | 'g' => some .get
  | 'G' => some .getMore
  | 'h' => some .hold
  | 'H' => some .holdMore
  | 'n' => some .next
  | 'N' => some .nextMore
  | 'p' => some .print
  | 'P' => some .printLine
  | 'x' => some .exchange
  | 'z' => some .clear
  | _ => none

/-- A version that is asked for is not newer than this one. -/
def isKnown (version : String) : Bool :=
  match (version.splitOn ".").map String.toNat? with
  | [some major] => major ≤ 4
  | some major :: some minor :: _ => major < 4 || (major = 4 && minor ≤ 9)
  | _ => version.isEmpty

/-- Reads the part of a command after its letter. -/
def command (lines : Lines) (letter : Char) (isStart : Bool) : Reading Unit := do
  let verb (v : Verb) : Reading Unit := add { lines, verb := v }
  let text (empty : Verb) : Reading Unit := do
    skipBlanks
    match ← peek? with
    | none =>
      match empty with
      | .run _ => verb empty
      | _ => throw .noText
    | some '\\' =>
      skip 1
      verb empty
      match ← peek? with
      | none => modify fun u => { u with pending := some [] }
      | some '\n' =>
        let _ ← next?
        textOf []
      | some _ => textOf []
    | some '\n' =>
      verb empty
      match empty with
      | .run _ => let _ ← next?
      | _ => textOf []
    | some _ =>
      verb empty
      textOf []
  let argument : Reading (Option Nat) := do
    skipBlanks
    let n ← if (← peek?).any Char.isDigit then some <$> number else pure none
    endOfCommand
    pure n
  match letter with
  | '#' =>
    if lines.first.isSome then throw .commentWithAddress
    let rest := (← get).rest
    let comment := rest.takeWhile (· ≠ '\n')
    skip comment.length
    let _ ← next?
    if isStart && comment.head? = some 'n' then
      modify fun u => { u with script := { u.script with quiet := true } }
  | 'v' =>
    let version ← label
    if !isKnown version then throw .newer
    endOfCommand
  | '\x7b' =>
    modify fun u =>
      { u with blocks := u.script.commands.size :: u.blocks, blockLine := u.line }
    verb (.block 0)
  | '\x7d' =>
    match (← get).blocks with
    | [] => throw .closeBrace
    | start :: blocks =>
      if lines.first.isSome then throw .braceWithAddress
      endOfCommand
      modify fun u =>
        let commands := u.script.commands
        let stop := commands.size
        let commands := commands.modify start fun c => { c with verb := .block stop }
        { u with blocks, script := { u.script with commands } }
  | 'a' => text (.append [])
  | 'i' => text (.insert [])
  | 'c' => text (.change [])
  | 'e' =>
    if (← get).dialect.sandboxed then throw .forbidden
    text (.run [])
  | ':' =>
    if lines.first.isSome then throw .labelWithAddress
    let name ← label
    if name.isEmpty then throw .noLabel
    modify fun u => { u with script := { u.script with
      labels := u.script.labels ++ [(name, u.script.commands.size)] } }
  | 'b' => verb (.jump .always (← label))
  | 't' => verb (.jump .ifReplaced (← label))
  | 'T' => verb (.jump .unlessReplaced (← label))
  | 'q' | 'Q' =>
    if lines.second.isSome then throw .secondAddress
    let status := (← argument).getD 0
    verb (if letter = 'q' then .quit status else .leave status)
  | 'l' => verb (.show (← argument))
  | 'r' => verb (.readFile (← file))
  | 'R' => verb (.readLine (← file))
  | 'w' => verb (.writeFile (← file))
  | 'W' => verb (.writeLine (← file))
  | 's' => verb (← substitution)
  | 'y' => verb (← transliteration)
  | _ =>
    match plainVerb? letter with
    | some v =>
      endOfCommand
      verb v
    | none => throw (.unknown letter)

/-- Reads the commands of a part. -/
def commandsFrom (isFirst : Bool) : Nat → Reading Unit
  | 0 => pure ()
  | fuel + 1 => do
    let u ← get
    match u.rest with
    | [] => pure ()
    | c :: _ =>
      if isSpace c || c = ';' then
        let _ ← next?
        commandsFrom isFirst fuel
      else
        let lines ← lines
        skipBlanks
        let lines ← if (← peek?) = some '!' then do
            skip 1
            skipBlanks
            if (← peek?) = some '!' then
              skip 1
              throw .secondNegation
            pure { lines with negated := true }
          else pure lines
        match ← next? with
        | none | some '\n' => throw .noCommand
        | some letter =>
          command lines letter (isFirst && u.position = 0)
          commandsFrom isFirst fuel

/-- Reads a part of a script. -/
def part (isFirst : Bool) (text : List Char) : Reading Unit := do
  modify fun u => { u with rest := text, position := 0, line := 0 }
  match (← get).pending with
  | some before => textOf before
  | none => pure ()
  commandsFrom isFirst (text.length + 1)

end Reading

end RemoteAttach.Tool.Sed
