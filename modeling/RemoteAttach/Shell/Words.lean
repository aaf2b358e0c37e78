import RemoteAttach.Shell.Source
import RemoteAttach.Text.Numeral

/-! Reading the words of a script: runs of literal, quoted and expanded parts up to a stop. What
stands inside a word may be a script again, so that each reader is given readers for the texts that
lie one level deeper. -/

namespace RemoteAttach.Shell.Reading

/-- Which statements are read. -/
inductive Extent where
  /-- The statements of a body, of which there is at least one. -/
  | body
  /-- The statements of a line. -/
  | line
  /-- Statements up to what closes them, of which there may be none. -/
  | any
  deriving DecidableEq

/-- Readers for the texts that lie one level deeper. -/
structure Deeper where
  parts : Stop → Reading Word
  statements : Extent → Reading (List Statement)
  /-- Statements up to a closing parenthesis, which is taken. -/
  inner : Reading (List Statement)
  command : Reading Command

/-- Readers that refuse everything. -/
def Deeper.none : Deeper :=
  let tooDeep := fun {α : Type} => (refuse "Syntax error: too deep" : Reading α)
  ⟨fun _ => tooDeep, fun _ => tooDeep, tooDeep, tooDeep⟩

/-- A run of characters at the start of a text, in which joined lines do not count, and the number
of characters up to its end. -/
def runOf (accepts : Char → Bool) : List Char → List Char × Nat
  | '\\' :: '\n' :: more =>
    let (text, count) := runOf accepts more
    (text, count + 2)
  | c :: more =>
    if accepts c then
      let (text, count) := runOf accepts more
      (c :: text, count + 1)
    else ([], 0)
  | [] => ([], 0)

/-- Takes a run of characters. -/
def takeRun (accepts : Char → Bool) : Reading (List Char) := do
  let (text, count) := runOf accepts (← rest)
  skip count
  pure text

/-- Moves past joined lines, and tells what is next. -/
def peek : Reading (Option Char) := do
  skip (runOf (fun _ => false) (← rest)).2
  pure (← rest).head?

/-- Puts another script in the place of what is left, reads it, and goes back. -/
def aside {α : Type} (text : List Char) (line : Nat) (reading : Reading α) : Reading α := do
  let before ← get
  set { before with
    rest := text, lineStart := text, line, taken := 0, pushed := none, endLine := none,
    after := none }
  let result ← reading
  modify fun src => { before with notices := src.notices }
  pure result

/-- A script with the marks of the last token as they were before it. -/
def keepToken {α : Type} (reading : Reading α) : Reading α := do
  let before ← get
  let result ← reading
  modify fun src => { src with
    tokenStart := before.tokenStart, tokenLine := before.tokenLine,
    tokenNumber := before.tokenNumber }
  pure result

/-- The value of up to `most` digits at the start of a text, and their number. -/
def digitsValue (base most : Nat) (text : List Char) : Nat × Nat :=
  let digits := (text.take most).map (Text.digit? base) |>.takeWhile Option.isSome
  (digits.foldl (fun n d => n * base + d.getD 0) 0, digits.length)

/-- What a letter after a backslash stands for between dollar quotes. -/
def controlOf? (c : Char) : Option Nat :=
  ([('n', 10), ('t', 9), ('r', 13), ('a', 7), ('b', 8), ('e', 27), ('E', 27), ('f', 12), ('v', 11),
    ('\\', 92), ('\'', 39), ('"', 34), ('?', 63)].find? (·.1 = c)).map (·.2)

/-- The text between dollar quotes, and the number of characters with the closing quote. Its first
`skipped` characters have been read. -/
def dollarQuoted : Nat → List Char → Option (List Char × Nat)
  | _, [] => none
  | skipped + 1, _ :: rest => (dollarQuoted skipped rest).map fun (text, n) => (text, n + 1)
  | 0, '\'' :: _ => some ([], 1)
  | 0, '\\' :: rest =>
    let (here, count) := match rest with
      | 'x' :: more =>
        let (value, n) := digitsValue 16 2 more
        if n = 0 then (['\\', 'x'], 1) else ([Char.ofNat value], n + 1)
      | 'u' :: more =>
        let (value, n) := digitsValue 16 4 more
        if n = 0 then (['\\', 'u'], 1)
        else if 128 ≤ value then
          let digits := (Nat.toDigits 16 value).map Char.toUpper
          ('\\' :: 'u' :: List.replicate (4 - digits.length) '0' ++ digits, n + 1)
        else ([Char.ofNat value], n + 1)
      | 'c' :: c :: _ => ([Char.ofNat (c.toNat % 32)], 2)
      | c :: _ =>
        match controlOf? c with
        | some value => ([Char.ofNat value], 1)
        | none =>
          let (value, n) := digitsValue 8 3 rest
          if n = 0 then (['\\', c], 1) else ([Char.ofNat (value % 256)], n)
      | [] => (['\\'], 0)
    (dollarQuoted count rest).map fun (text, n) => (here ++ text, n + 1)
  | 0, c :: rest => (dollarQuoted 0 rest).map fun (text, n) => (c :: text, n + 1)

/-- The words of an unfinished text for its stop. In a text that a redirection brings along, the
smaller shell does not look for the end of quotes. -/
def unfinished {α : Type} (stop : Stop) (line : Nat) : Reading α := do
  let src ← get
  let words := if src.endLine.isSome then "Missing '\x7d'" else "Unterminated quoted string"
  if src.after.isSome then modify fun src => { src with line := src.line + 1 }
  match stop with
  | .quote _ => unclosed words '"' line
  | .brace true _ => unclosed words '\x7d' line
  | .sum => unclosed "Missing '))'" ')' line
  | .group => unclosed "Missing ')'" ')' line
  | .bracket => unclosed "Missing ']'" ']' line
  | _ => unclosed "Missing '\x7d'" '\x7d' line

/-- Reads what stands between double quotes, of which the first is next. -/
def doubleQuoted (deeper : Deeper) (stop : Stop) : Reading Word := do
  skip 1
  let braced := match stop with
    | .brace .. => true
    | _ => false
  let inside ← deeper.parts (.quote braced)
  skip 1
  pure (if inside.isEmpty then [.literal [] true] else inside)

/-- Reads the script between back quotes, of which the first is next. In the smaller shell its
lines are counted on their own. -/
def backQuotes (deeper : Deeper) (quoted : Bool) : Reading Word := do
  let src ← get
  match backQuoted quoted (src.rest.drop 1) with
  | none =>
    skip src.rest.length
    unclosed "EOF in backquote substitution" '`' src.line
  | some (text, after) =>
    let line := match src.dialect with
      | .dash => 1
      | .bash => src.line
    let script ← aside text line (deeper.statements .any)
    skip (src.rest.length - after.length)
    pure [.output line script quoted]

/-- The operators that look at a value with a word, after a colon or none. -/
def conditional? (orEmpty : Bool) : Char → Option (Word → Change)
  | '-' => some (.useUnless orEmpty)
  | '=' => some (.assignUnless orEmpty)
  | '?' => some (.requireUnless orEmpty)
  | '+' => some (.useIf orEmpty)
  | _ => none

/-- Reads the word of a change up to the closing brace, and takes the brace. -/
def changeWord (deeper : Deeper) (quoted : Bool) : Reading Word := do
  let word ← deeper.parts (.brace quoted [])
  skip 1
  pure word

/-- Reads the name between braces in the smaller shell, and tells whether only its length is wanted;
there is none if what stands there is no name. -/
def plainBraceName : Reading (Option String × Bool) := do
  match ← peek with
  | some '#' =>
    skip 1
    let next ← peek
    if next.any fun c => c.isAlphanum || c = '_' then
      let name ← takeRun (if next.any Char.isDigit then Char.isDigit else isNameChar)
      pure (some (String.ofList name), true)
    else
      let second := (← rest).drop 1
      if next ≠ some '\x7d' && second.head? = some '\x7d' then
        skip 1
        pure (next.filter isSpecial |>.map Char.toString, true)
      else pure (some "#", false)
  | some c =>
    if isNameStart c then pure (some (String.ofList (← takeRun isNameChar)), false)
    else if c.isDigit then pure (some (String.ofList (← takeRun Char.isDigit)), false)
    else
      if isSpecial c then
        skip 1
        pure (some c.toString, false)
      else
        if c ≠ '\x7d' then skip 1
        pure (none, false)
  | none => pure (none, false)

/-- Moves past a character without counting its line. -/
def drop : Reading Unit :=
  modify fun src => { src with rest := src.rest.drop 1 }

/-- Reads a parameter between braces in the smaller shell. -/
def plainBraces (deeper : Deeper) (stop : Stop) : Reading Word := do
  let (name, counts) ← plainBraceName
  let bad : Reading Word := do
    let _ ← changeWord deeper stop.quoted
    pure [.parameter (.named "") (.bad "") stop.quoted]
  match name with
  | none => bad
  | some name =>
    let named := fun change => [Part.parameter (.named name) change stop.quoted]
    match ← peek with
    | none => unfinished (.brace stop.quoted []) 0
    | some c =>
      if counts then
        if c = '\x7d' then
          skip 1
          pure (named .length)
        else bad
      else if c = '\x7d' then
        skip 1
        pure (named .keep)
      else if c = '%' || c = '#' then
        skip 1
        let longest := (← peek) = some c
        if longest then skip 1
        let word ← changeWord deeper false
        pure (named (if c = '#' then .dropStart longest word else .dropEnd longest word))
      else
        drop
        let orEmpty := c = ':'
        let op ← if orEmpty then do
            let next ← peek
            drop
            pure (next.getD ' ')
          else pure c
        match conditional? orEmpty op with
        | none => bad
        | some change => pure (named (change (← changeWord deeper stop.quoted)))

/-- Reads the name of a parameter between braces in the larger shell. -/
def braceName : Reading String := do
  match ← peek with
  | some c =>
    if isNameStart c then pure (String.ofList (← takeRun isNameChar))
    else if c.isDigit then pure (String.ofList (← takeRun Char.isDigit))
    else if isSpecial c then
      skip 1
      pure c.toString
    else pure ""
  | none => pure ""

/-- Reads the key of a list after its name, if there is one. -/
def braceKey (deeper : Deeper) : Reading (Option Word) := do
  if (← peek) ≠ some '[' then pure none
  else
    skip 1
    let key ← deeper.parts .bracket
    skip 1
    pure (some key)

/-- Takes a character if it is next, and tells whether it was. -/
def takeIf (c : Char) : Reading Bool := do
  if (← peek) = some c then
    skip 1
    pure true
  else pure false

/-- Reads the change of a value in the larger shell, after its name, up to the closing brace. -/
def braceChange (deeper : Deeper) (quoted : Bool) : Reading (Option Change) := do
  match ← peek with
  | some '\x7d' =>
    skip 1
    pure (some .keep)
  | some ':' =>
    skip 1
    match (← peek).bind (conditional? true) with
    | some change =>
      skip 1
      pure (some (change (← changeWord deeper quoted)))
    | none =>
      if (← peek) = some '\x7d' then return none
      let start ← deeper.parts (.brace true [':'])
      if ← takeIf ':' then pure (some (.slice start (some (← changeWord deeper true))))
      else
        skip 1
        pure (some (.slice start none))
  | some '/' =>
    skip 1
    let place ←
      if ← takeIf '/' then pure ReplacePlace.everywhere
      else if ← takeIf '#' then pure .start
      else if ← takeIf '%' then pure .finish
      else pure .first
    let pattern ← deeper.parts (.brace false ['/'])
    if ← takeIf '/' then pure (some (.replace place pattern (← changeWord deeper false)))
    else
      skip 1
      pure (some (.replace place pattern []))
  | some '@' =>
    skip 1
    match ← rest with
    | letter :: '\x7d' :: _ =>
      skip 2
      pure (some (.form letter))
    | _ => pure none
  | some c =>
    match conditional? false c with
    | some change =>
      skip 1
      pure (some (change (← changeWord deeper quoted)))
    | none =>
      if ['#', '%', '^', ',', '~'].contains c then
        skip 1
        let twice ← takeIf c
        let word ← changeWord deeper false
        pure (some (match c with
          | '#' => .dropStart twice word
          | '%' => .dropEnd twice word
          | '^' => .recase .raise twice word
          | ',' => .recase .lower twice word
          | _ => .recase .turn twice word))
      else pure none
  | none => pure none

/-- Reads a parameter between braces in the larger shell. -/
def richBraces (deeper : Deeper) (quoted : Bool) : Reading Word := do
  let src ← get
  let made := fun target change => [Part.parameter target change quoted]
  let bad : Reading Word := do
    let _ ← changeWord deeper quoted
    let text := src.rest.take (src.rest.length - (← rest).length)
    pure (made (.named "") (.bad ("$\x7b" ++ String.ofList text)))
  let element := fun (name : String) (key : Option Word) =>
    match key with
    | some key => Target.element name key
    | none => .named name
  match src.rest with
  | '#' :: c :: more =>
    if c = '\x7d' then
      skip 2
      pure (made (.named "#") .keep)
    else if isNameStart c || c.isDigit || (isSpecial c && more.head? = some '\x7d') then
      skip 1
      let name ← braceName
      let key ← braceKey deeper
      if ← takeIf '\x7d' then pure (made (element name key) .length) else bad
    else
      skip 1
      match ← braceChange deeper quoted with
      | some change => pure (made (.named "#") change)
      | none => bad
  | '!' :: c :: _ =>
    if isNameStart c || c.isDigit then
      skip 1
      let name ← braceName
      match ← rest with
      | '*' :: '\x7d' :: _ | '@' :: '\x7d' :: _ =>
        let joined ← takeIf '*'
        skip (if joined then 1 else 2)
        pure (made (.names name joined) .keep)
      | '[' :: '*' :: ']' :: '\x7d' :: _ =>
        skip 4
        pure (made (.keys name true) .keep)
      | '[' :: '@' :: ']' :: '\x7d' :: _ =>
        skip 4
        pure (made (.keys name false) .keep)
      | _ =>
        match ← braceChange deeper quoted with
        | some change => pure (made (.pointed name) change)
        | none => bad
    else
      skip 1
      match ← braceChange deeper quoted with
      | some change => pure (made (.named "!") change)
      | none => bad
  | _ =>
    let name ← braceName
    if name.isEmpty then bad
    else
      let key ← braceKey deeper
      match ← braceChange deeper quoted with
      | some change => pure (made (element name key) change)
      | none => bad

/-- The text up to the mark that closes what is open, and what follows it. -/
def enclosed (opening closing : Char) (depth : Nat) : List Char → Option (List Char × List Char)
  | [] => none
  | c :: rest =>
    if c = closing then
      match depth with
      | 0 => some ([], rest)
      | depth + 1 =>
        (enclosed opening closing depth rest).map fun (text, after) => (c :: text, after)
    else
      (enclosed opening closing (if c = opening then depth + 1 else depth) rest).map
        fun (text, after) => (c :: text, after)

/-- Reads the parts of an arithmetic expression that is given as text. -/
def sumOf (deeper : Deeper) (text : List Char) : Reading Word := do
  aside (text ++ [')', ')']) (← get).line (deeper.parts .sum)

/-- The line of the first token of a script, over blanks and comments. -/
def firstLine (line : Nat) (inComment : Bool) : List Char → Nat
  | [] => line
  | c :: rest =>
    if c = '\n' then firstLine (line + 1) false rest
    else if inComment || c = ' ' || c = '\t' then firstLine line inComment rest
    else if c = '#' then firstLine line true rest
    else line

/-- A comment begins in an arithmetic expression that does not end in it; `isBlank` tells that a
blank stands before the text. -/
def hasOpenComment (isBlank : Bool) : List Char → Bool
  | [] => false
  | c :: rest =>
    (c = '#' && isBlank && !rest.contains '\n') ||
      hasOpenComment (c = ' ' || c = '\t' || c = '\n') rest

/-- Reads what follows a dollar sign, which is next. -/
def dollar (deeper : Deeper) (stop : Stop) : Reading Word := do
  let src ← get
  skip 1
  match ← peek with
  | some '(' =>
    let text ← rest
    let sums : Bool := match src.dialect with
      | .dash => (text.drop 1).head? == some '('
      | .bash => ['(', '('].isPrefixOf text && (arithmeticText 0 (text.drop 2)).isSome
    if sums then
      let inside := ((arithmeticText 0 (text.drop 2)).map (·.1)).getD []
      skip 2
      let expression ← deeper.parts .sum
      if src.dialect = .bash && hasOpenComment false inside then
        pure [.parameter (.named "") .unclosed stop.quoted]
      else pure [.value expression stop.quoted]
    else
      if src.dialect = .bash && !stop.quoted && ['(', '('].isPrefixOf text &&
          (enclosed '(' ')' 0 (text.drop 1)).isNone then
        unclosed "" ')' src.line
      skip 1
      let begin := if stop = .text then src.line else firstLine src.line false (text.drop 1)
      let script ← keepToken deeper.inner
      pure [.output begin script stop.quoted]
  | some '\x7b' =>
    skip 1
    match src.dialect with
    | .dash => plainBraces deeper stop
    | .bash => richBraces deeper stop.quoted
  | some c =>
    let text ← rest
    let isQuote := src.dialect = .bash && !stop.quoted
    if isNameStart c then
      let name ← takeRun isNameChar
      pure [.parameter (.named (String.ofList name)) .keep stop.quoted]
    else if isSpecial c then
      skip 1
      pure [.parameter (.named c.toString) .keep stop.quoted]
    else if isQuote && c = '\'' then
      match dollarQuoted 0 (text.drop 1) with
      | some (decoded, count) =>
        skip (count + 1)
        pure [.literal decoded true]
      | none => unclosed "" '\'' src.line
    else if isQuote && c = '"' then pure []
    else if src.dialect = .bash && c = '[' then
      match enclosed '[' ']' 0 (text.drop 1) with
      | some (inside, _) =>
        let expression ← sumOf deeper inside
        skip (inside.length + 2)
        pure [.value expression stop.quoted]
      | none => unclosed "" ']' src.line
    else pure [.literal ['$'] stop.quoted]
  | none => pure [.literal ['$'] stop.quoted]

/-- Reads the part of a word that begins with an active character. -/
def activePart (deeper : Deeper) (stop : Stop) (c : Char) (more : List Char) : Reading Word := do
  match c with
  | '\\' =>
    match more with
    | [] =>
      skip 1
      pure [.literal ['\\'] true]
    | '\n' :: _ =>
      skip 2
      pure []
    | d :: _ =>
      let protects := !stop.quoted || stop.protects d
      skip (if protects then 2 else 1)
      pure [.literal [if protects then d else '\\'] true]
  | '\'' =>
    let src ← get
    match Text.cutAt '\'' more with
    | none =>
      skip src.rest.length
      unclosed "Unterminated quoted string" '\'' src.line
    | some (text, _) =>
      skip (text.length + 2)
      pure [.literal text true]
  | '"' =>
    if stop = .text || stop = .sum then
      skip 1
      pure [.literal (if stop = .sum && (← get).dialect = .bash then [] else ['"']) true]
    else doubleQuoted deeper stop
  | '$' => dollar deeper stop
  | '`' => backQuotes deeper stop.quoted
  | _ =>
    skip 1
    pure [.literal [c] stop.quoted]

/-- A group of patterns begins here. -/
def beginsGroup (src : Source) (stop : Stop) (c : Char) (more : List Char) : Bool :=
  src.grouped && !stop.quoted && ['?', '*', '+', '@', '!'].contains c && more.head? = some '('

/-- A channel from or to a script begins here. -/
def beginsChannel (src : Source) (stop : Stop) (c : Char) (more : List Char) : Bool :=
  src.dialect = .bash && stop = .word && (c = '<' || c = '>') && more.head? = some '('

/-- A text between single quotes begins here, inside double quotes and braces of the larger shell.
The quotes are part of the text, but nothing in it closes the braces. -/
def beginsSingle (src : Source) (stop : Stop) (c : Char) : Bool :=
  src.dialect = .bash && c = '\'' && (match stop with
    | .brace quoted _ => quoted
    | _ => false)

/-- The words with the first one before the other. -/
def joinWords (first second : Word) : Word :=
  first.foldr consPart second

/-- A text up to the end of its first line, which is included. -/
def throughLine : List Char → List Char
  | [] => []
  | c :: rest => if c = '\n' then [c] else c :: throughLine rest

/-- Reads the parts of a word up to a stop, which is left. `depth` parentheses are open in it, and
the text was begun at `line`. -/
def partsFrom (deeper : Deeper) (stop : Stop) (line : Nat) : Nat → Nat → Reading Word
  | 0, _ => pure []
  | fuel + 1, depth => do
    let src ← get
    let go := fun (first : Word) (depth : Nat) => do
      let others ← partsFrom deeper stop line fuel depth
      pure (joinWords first others)
    match src.rest with
    | [] =>
      match stop with
      | .word | .text | .expression => pure []
      | _ => unfinished stop line
    | c :: more =>
      let counted := stop = .sum || stop = .expression
      if beginsGroup src stop c more then
        skip 2
        let inside ← deeper.parts .group
        skip 1
        let group := Part.literal [c, '('] false :: inside ++ [.literal [')'] false]
        go group depth
      else if beginsChannel src stop c more then
        skip 2
        let script ← keepToken deeper.inner
        go [.channel (c = '<') script] depth
      else if beginsSingle src stop c then
        match Text.cutAt '\'' more with
        | none =>
          skip src.rest.length
          unclosed "" '\'' src.line
        | some (text, _) =>
          let inside ← aside (text.filter (· ≠ '"')) src.line (deeper.parts .text)
          skip (text.length + 2)
          let quote := [Part.literal ['\''] true]
          go (joinWords quote (joinWords inside quote)) depth
      else if stop = .sum && c = ')' && depth = 0 then
        let next := more.drop (runOf (fun _ => false) more).2
        if next.head? = some ')' then
          skip (more.length - next.length + 2)
          pure []
        else
          skip 1
          go [.literal [c] true] 0
      else if counted && (c = '(' || c = ')') then
        skip 1
        go [.literal [c] stop.quoted] (if c = '(' then depth + 1 else depth - 1)
      else if stop.endsAt c && !(stop = .expression && depth ≠ 0) then pure []
      else if stop.isActive c then
        let first ← activePart deeper stop c more
        go first depth
      else
        let run := more.takeWhile fun d =>
          !stop.isActive d && !beginsSingle src stop d &&
            !(src.grouped && ['?', '*', '+', '@', '!'].contains d)
        let text := if src.endLine.isSome then throughLine (c :: run) else c :: run
        skip text.length
        if text.getLast? = some '\n' then beginLine
        go [.literal text stop.quoted] depth

/-- Reads the parts of a word up to a stop. -/
def partsOf (deeper : Deeper) (stop : Stop) : Reading Word := do
  let src ← get
  partsFrom deeper stop src.line (src.rest.length + 1) 0

/-- Reads a word. The parts of it that lack the end of a comment are told what the word is. -/
def wholeWord (deeper : Deeper) : Reading Word := do
  let text ← rest
  let word ← partsOf deeper .word
  let isOpen := fun (part : Part) => match part with
    | .parameter _ .unclosed _ => true
    | _ => false
  if word.any isOpen then
    let whole := String.ofList (text.take (text.length - (← rest).length))
    pure (word.map fun part =>
      if isOpen part then .parameter (.named whole) .unclosed false else part)
  else pure word

end RemoteAttach.Shell.Reading
