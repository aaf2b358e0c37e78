import RemoteAttach.Shell.Tests

/-! Reading shell scripts, a line of statements at a time. A line that cannot be read is refused as
a whole, with the words of the shell. -/

namespace RemoteAttach.Shell.Reading

/-- The number of characters up to the end of a line of tokens, over line ends that are quoted.
`quote` is the open quote, and `inWord` tells that a word goes on. -/
def lineLength (quote : Option Char) (inWord : Bool) : List Char → Nat
  | [] => 0
  | '\\' :: _ :: rest =>
    match quote with
    | some '\'' => lineLength quote true rest + 2
    | _ => lineLength quote true rest + 2
  | c :: rest =>
    match quote with
    | some '#' => if c = '\n' then 0 else lineLength quote false rest + 1
    | some q => lineLength (if c = q then none else quote) true rest + 1
    | none =>
      if c = '\n' then 0
      else if c = '#' && !inWord then lineLength (some '#') false rest + 1
      else if c = '\'' || c = '"' || c = '`' then lineLength (some c) true rest + 1
      else lineLength none (!isMeta c) rest + 1

/-- Reads the lines of a text that a redirection brings along, from the start of a line on: the
text, the number of its lines, what follows, and whether its end was found. The smaller shell looks
for the end while it reads what stands in the text. -/
def linesBelow (deeper : Deeper) (mark : EndLine) (quoted : Bool) (below : List Char)
    (first : Nat) : Reading (Word × Nat × List Char × Bool) := do
  let lines := if below.isEmpty then [] else Text.pieces ['\n'] below
  match (← get).dialect, quoted with
  | dialect, true =>
    let (body, count, after, found) := linesUpTo mark false true lines
    let isCut := dialect = .dash && !found && 0 < count && body.getLast? ≠ some '\n'
    pure ([.literal body true], count - (if isCut then 1 else 0), after, found)
  | .dash, false =>
    aside below first do
      modify fun src => { src with endLine := some mark }
      beginLine
      let parsed ← deeper.parts .text
      let src ← get
      let found := src.after.isSome
      pure (parsed, src.line + (if found then 1 else 0) - first, src.after.getD [], found)
  | .bash, false =>
    let (body, count, after, found) := linesUpTo mark true true lines
    pure (← aside body first (deeper.parts .text), count, after, found)

/-- Reads the text that a redirection brings along, of which the delimiter is next, from the lines
below. -/
def textBelow (deeper : Deeper) (stream : Nat) (dropsTabs : Bool) : Reading Redirect := do
  skipBlanks
  let src ← get
  let (mark, quoted, count) := delimiter none src.rest
  if count = 0 then unexpected (← token deeper)
  skip count
  let mark := if dropsTabs then mark.dropWhile (· = '\t') else mark
  let text ← rest
  let onLine := text.take (lineLength none true text)
  let below := text.drop (onLine.length + 1)
  let first := src.line + 1 + src.taken
  let (parsed, lines, after, found) ← linesBelow deeper ⟨mark, dropsTabs⟩ quoted below first
  if !found && src.dialect = .bash then
    let words := "warning: here-document at line " ++ toString src.line ++
      " delimited by end-of-file (wanted `" ++ String.ofList mark ++ "')"
    modify fun src => { src with notices := src.notices ++ [(first + lines - 1, words)] }
  resume (onLine ++ (if found || !below.isEmpty || onLine.length < text.length then
    '\n' :: after else after))
  modify fun src => { src with taken := src.taken + lines }
  pure (.text stream parsed)

/-- Reads a redirection after its operator. -/
def redirection (deeper : Deeper) (stream : Option Nat) (op : String) : Reading Redirect := do
  let usual := if op.startsWith "<" then 0 else 1
  let stream := stream.getD usual
  if op = "<<" || op = "<<-" then textBelow deeper stream (op = "<<-")
  else
    let t ← token deeper
    match t with
    | .word target =>
      pure (match op with
        | "<" => .read stream target
        | "<>" => .write stream .shared target
        | ">>" => .write stream .append target
        | ">|" => .write stream .forced target
        | ">&" | "<&" => .copy stream target
        | "<<<" => .text stream (target ++ [.literal ['\n'] true])
        | "&>" => .writeBoth false target
        | "&>>" => .writeBoth true target
        | _ => .write stream .fresh target)
    | t => unexpected t

/-- Reads the redirections after a command. -/
def redirectionsFrom (deeper : Deeper) : Nat → Reading (List Redirect)
  | 0 => pure []
  | fuel + 1 => do
    let t ← token deeper ⟨false, true, true⟩
    match t with
    | .redirect stream op =>
      let first ← redirection deeper stream op
      pure (first :: (← redirectionsFrom deeper fuel))
    | .redirectNamed name op =>
      let first ← redirection deeper none op
      pure (.named name first :: (← redirectionsFrom deeper fuel))
    | t =>
      pushBack t
      pure []

/-- The command with the redirections that follow it. -/
def withRedirections (deeper : Deeper) (line : Nat) (command : Command) : Reading Command := do
  let redirects ← redirectionsFrom deeper ((← rest).length + 1)
  pure (if redirects.isEmpty then command else .redirected line command redirects)

/-- The assignment that a word of the smaller shell makes. -/
def setting? : Word → Option Setting
  | .literal text false :: more =>
    let name := text.takeWhile isNameChar
    if name.head?.any isNameStart && (text.drop name.length).head? = some '=' then
      let value := text.drop (name.length + 1)
      let value := if value.isEmpty then more else consPart (.literal value false) more
      some (.text (String.ofList name) none false value)
    else none
  | _ => none

/-- Goes back to the start of the last token. -/
def unread : Reading Unit :=
  modify fun src => { src with
    rest := src.tokenStart, line := src.tokenNumber, lineStart := src.tokenLine, pushed := none }

/-- Reads the items of a list up to the closing parenthesis. -/
def itemsFrom (deeper : Deeper) (line : Nat) : Nat → Reading (List (Option Word × Word))
  | 0 => pure []
  | fuel + 1 => do
    let t ← token deeper ⟨true, false, false⟩
    match t with
    | .op ")" => pure []
    | .ending => unclosed "" ')' line
    | .word _ =>
      let src ← get
      let item ← match src.tokenStart with
        | '[' :: rest =>
          match Text.cutAt ']' rest with
          | some (key, '=' :: _) =>
            unread
            skip 1
            let key' ← deeper.parts .bracket
            let _ := key
            skip 2
            pure (some key', ← wholeWord deeper)
          | _ =>
            unread
            pure (none, ← wholeWord deeper)
        | _ =>
          unread
          pure (none, ← wholeWord deeper)
      pure (item :: (← itemsFrom deeper line fuel))
    | t => unexpected t

/-- Reads the items of a list, of which the parenthesis is next. -/
def items (deeper : Deeper) : Reading (List (Option Word × Word)) := do
  skip 1
  keepToken (itemsFrom deeper (← get).line ((← rest).length + 1))

/-- Reads the assignment that begins with the last token in the larger shell, if it is one. -/
def richSetting? (deeper : Deeper) : Reading (Option Setting) := do
  let src ← get
  match assigned? .bash src.tokenStart with
  | none => pure none
  | some (name, key, append, _) =>
    unread
    skip name.length
    let key ← if key.isSome then braceKey deeper else pure none
    skip (if append then 2 else 1)
    let name := String.ofList name
    if (← rest).head? = some '(' then
      let written ← rest
      pure (some (.list name append written (← items deeper)))
    else pure (some (.text name key append (← wholeWord deeper)))

/-- The commands of the larger shell whose arguments may be lists. -/
def listTakers : List String := ["declare", "typeset", "local", "export", "readonly"]

/-- What has been read of a simple command. -/
structure Draft where
  settings : List Setting := []
  words : List Word := []
  redirects : List Redirect := []

/-- The number of words that have been read. -/
def Draft.size (d : Draft) : Nat :=
  d.settings.length + d.words.length + d.redirects.length

/-- The token is a word. -/
def Token.isWord : Token → Bool
  | .word _ => true
  | _ => false

/-- The names that no function may have in the smaller shell. -/
def reserved : List String :=
  [".", ":", "break", "continue", "eval", "exec", "exit", "export", "readonly", "return", "set",
    "shift", "times", "trap", "unset"]

/-- Reads a function after its name, of which the opening parenthesis has been taken. -/
def functionAfter (deeper : Deeper) (word : Word) : Reading Command := do
  expect deeper ")"
  let src ← get
  let name := (word.plain?).getD ""
  if src.dialect = .dash && (!isName name || reserved.contains name) then
    refuse "Syntax error: Bad function name"
  if src.dialect = .bash then
    let t ← token deeper Look.start
    match t with
    | .word _ | .redirect .. | .redirectNamed .. => unexpected t
    | t => pushBack t
  let written ← ahead
  pure (.function src.line name (← deeper.command) written)

/-- Reads a simple command, which stands at the start of a text. -/
def simpleFrom (deeper : Deeper) (line : Nat) (written : List Char) :
    Nat → Draft → Reading Command
  | 0, d => pure (.simple line d.settings d.words d.redirects written)
  | fuel + 1, d => do
    let t ← token deeper ⟨false, false, d.words.isEmpty⟩
    let src ← get
    let dialect := src.dialect
    /- The larger shell only knows the line when it has seen what follows the first word. -/
    let line := if dialect = .bash && d.size = 1 && Token.isWord t then src.line else line
    match t with
    | .redirect stream op =>
      let change ← redirection deeper stream op
      simpleFrom deeper line written fuel { d with redirects := d.redirects ++ [change] }
    | .redirectNamed name op =>
      let change ← redirection deeper none op
      let changes := d.redirects ++ [.named name change]
      simpleFrom deeper line written fuel { d with redirects := changes }
    | .word word =>
      let setting ←
        if !d.words.isEmpty then pure none
        else match dialect with
          | .dash => pure (setting? word)
          | .bash => richSetting? deeper
      match setting with
      | some setting =>
        simpleFrom deeper line written fuel { d with settings := d.settings ++ [setting] }
      | none =>
        let word ←
          if dialect = .bash && (d.words.head?.bind Word.plain?).any listTakers.contains then
            match assigned? .bash (← get).tokenStart with
            | some (name, none, append, count) =>
              if ((← get).tokenStart.drop count).head? = some '(' then
                unread
                skip count
                let mark := if append then ['+', '='] else ['=']
                pure [Part.literal (name ++ mark) false, .items (← items deeper)]
              else pure word
            | _ => pure word
          else pure word
        simpleFrom deeper line written fuel { d with words := d.words ++ [word] }
    | .op "(" =>
      match d.words, d.settings, d.redirects with
      | [word], [], [] => functionAfter deeper word
      | _, _, _ =>
        pushBack t
        pure (.simple line d.settings d.words d.redirects written)
    | t =>
      pushBack t
      pure (.simple line d.settings d.words d.redirects written)

/-- Reads the branches after a condition's first word. -/
def branchesFrom (deeper : Deeper) : Nat → Reading Command
  | 0 => unexpected .ending
  | fuel + 1 => do
    let condition ← deeper.statements .body
    expect deeper "then"
    let yes ← deeper.statements .body
    let t ← token deeper
    match t with
    | .keyword "elif" =>
      let no ← branchesFrom deeper fuel
      pure (.branch condition yes [.pipeline false [no]])
    | .keyword "else" =>
      let no ← deeper.statements .body
      expect deeper "fi"
      pure (.branch condition yes no)
    | t =>
      if Token.isText "fi" t then pure (.branch condition yes [])
      else unexpected t (some "fi")

/-- Reads words up to another token, which is given too. -/
def wordsFrom (deeper : Deeper) : Nat → Reading (List Word × Token)
  | 0 => pure ([], .ending)
  | fuel + 1 => do
    match ← token deeper with
    | .word word =>
      let (more, t) ← wordsFrom deeper fuel
      pure (word :: more, t)
    | t => pure ([], t)

/-- Reads the body of a loop, with the words around it. -/
def loopBody (deeper : Deeper) (look : Look) : Reading (List Statement) := do
  let t ← token deeper look
  if Token.isText "do" t then
    let body ← deeper.statements .body
    expect deeper "done"
    pure body
  else if Token.isText "\x7b" t && (← get).dialect = .bash then
    let body ← deeper.statements .body
    expect deeper "\x7d"
    pure body
  else unexpected t (some "do")

/-- The text of the arithmetic expression between two parentheses on each side, if one is next. -/
def doubleParenthesis? : Reading (Option (List Char)) := do
  match (← get).dialect, ← rest with
  | .bash, '(' :: text => pure ((arithmeticText 0 text).map (·.1))
  | _, _ => pure none

/-- Reads a loop over words after its first word. -/
def eachAfter (deeper : Deeper) (line : Nat) (picks : Bool := false) : Reading Command := do
  skipBlanks
  let counted ← match ← rest, (← get).dialect with
    | '(' :: _, .bash => do
      modify (passed 1)
      match ← doubleParenthesis? with
      | some text =>
        skip (text.length + 3)
        pure (some text)
      | none => unexpected (.op "(")
    | _, _ => pure none
  match counted with
  | some text =>
    let part := fun (text : List Char) =>
      let text := text.dropWhile fun c => c = ' ' || c = '\t' || c = '\n'
      sumOf deeper (if text.isEmpty then ['1'] else text)
    let pieces ← (Text.pieces [';'] text).mapM part
    let t ← token deeper ⟨true, true, false⟩
    if !Token.isText ";" t then pushBack t
    let body ← loopBody deeper Look.start
    pure (.count line (pieces.getD 0 []) (pieces.getD 1 []) (pieces.getD 2 []) body)
  | none =>
    let written ← rest
    let t ← token deeper
    let dialect := (← get).dialect
    let name ← match t, dialect with
      | .word word, .bash =>
        let text := (word.plain?).getD ""
        pure text
      | .word word, .dash =>
        let text := (word.plain?).getD ""
        if isName text then pure text else refuse "Syntax error: Bad for loop variable"
      | _, .dash => refuse "Syntax error: Bad for loop variable"
      | t, .bash => unexpected t
    let t ← token deeper Look.start
    let words ←
      if Token.isText "in" t then do
        let (words, t) ← wordsFrom deeper ((← rest).length + 1)
        match t with
        | .newline | .op ";" => pure (some words)
        | t => unexpected t
      else do
        if !Token.isText ";" t then pushBack t
        pure none
    let body ← loopBody deeper Look.start
    pure (if picks then .pick line name words body written else .each line name words body written)

/-- Reads the patterns of a case after the first of them, up to the closing parenthesis. -/
def patternsFrom (deeper : Deeper) : Nat → Reading (List Word)
  | 0 => pure []
  | fuel + 1 => do
    let t ← token deeper
    match t with
    | .op ")" => pure []
    | .op "|" =>
      let pattern ← match ← token deeper with
        | .word word => pure word
        | _ => pure []
      pure (pattern :: (← patternsFrom deeper fuel))
    | t => unexpected t (some ")")

/-- Reads the cases of a choice. -/
def casesFrom (deeper : Deeper) :
    Nat → Reading (List (List Word × List Statement × CaseEnd))
  | 0 => pure []
  | fuel + 1 => do
    let t ← token deeper ⟨true, true, false⟩
    if Token.isText "esac" t then pure []
    else
      let t ← if Token.isText "(" t then token deeper else pure t
      let pattern ← match t, (← get).dialect with
        | .word word, _ => pure word
        | .keyword text, _ => pure [.literal text.toList false]
        | t, .bash => unexpected t
        | _, .dash => pure []
      let patterns ← patternsFrom deeper ((← rest).length + 1)
      let body ← deeper.statements .any
      let t ← token deeper ⟨true, true, false⟩
      let one := fun ending => ((pattern :: patterns, body, ending) :
        List Word × List Statement × CaseEnd)
      match t with
      | .keyword "esac" => pure [one .done]
      | .op ";;" => pure (one .done :: (← casesFrom deeper fuel))
      | .op ";&" => pure (one .next :: (← casesFrom deeper fuel))
      | .op ";;&" => pure (one .look :: (← casesFrom deeper fuel))
      | t => unexpected t (some ";;")

/-- Reads a choice after its first word. -/
def choiceAfter (deeper : Deeper) (line : Nat) : Reading Command := do
  let written ← rest
  let word ← match ← token deeper with
    | .word word => pure word
    | t => unexpected t (some "word")
  expect deeper "in" Look.start
  let cases ← casesFrom deeper ((← rest).length + 1)
  pure (.choice line word cases written)

/-- Reads a function after the keyword for it. -/
def functionNamed (deeper : Deeper) : Reading Command := do
  match ← token deeper with
  | .word word =>
    let name := (word.plain?).getD ""
    let t ← token deeper Look.start
    if Token.isText "(" t then
      if (← rest).head? = some ')' then
        skip 1
      else pushBack t
    else pushBack t
    let line := (← get).line
    let written ← ahead
    pure (.function line name (← deeper.command) written)
  | t => unexpected t

/-- Reads a command. -/
def commandFrom (deeper : Deeper) (look : Look) : Reading Command := do
  let line := (← get).line
  let t ← token deeper look
  match t with
  | .keyword "if" =>
    let branch ← branchesFrom deeper ((← rest).length + 1)
    withRedirections deeper line branch
  | .keyword "while" =>
    let condition ← deeper.statements .body
    let body ← loopBody deeper {}
    withRedirections deeper line (.loop true condition body)
  | .keyword "until" =>
    let condition ← deeper.statements .body
    let body ← loopBody deeper {}
    withRedirections deeper line (.loop false condition body)
  | .keyword "for" =>
    let loop ← eachAfter deeper line
    withRedirections deeper line loop
  | .keyword "select" =>
    let loop ← eachAfter deeper line true
    withRedirections deeper line loop
  | .keyword "case" =>
    let choice ← choiceAfter deeper line
    withRedirections deeper line choice
  | .keyword "\x7b" =>
    let body ← deeper.statements .body
    expect deeper "\x7d"
    withRedirections deeper line (.group body)
  | .keyword "[[" =>
    let test ← testAfter deeper line
    withRedirections deeper line test
  | .keyword "function" => functionNamed deeper
  | .op "(" =>
    match ← doubleParenthesis? with
    | some text =>
      skip (text.length + 3)
      let sum ← sumOf deeper text
      withRedirections deeper line (.compute line sum)
    | none =>
      let body ← deeper.statements .body
      expect deeper ")"
      withRedirections deeper line (.subshell line body)
  | .word _ | .redirect .. | .redirectNamed .. =>
    pushBack t
    simpleFrom deeper (← get).line (← get).tokenStart ((← rest).length + 2) {}
  | t => unexpected t

/-- The command with its errors going where its output goes. -/
def withErrors (command : Command) : Command :=
  let change := Redirect.copy 2 [.literal ['1'] false]
  match command with
  | .simple line settings words redirects written =>
    .simple line settings words (redirects ++ [change]) written
  | command => .redirected 0 command [change]

/-- Reads the commands of a pipeline, of which the first has been read. -/
def pipesFrom (deeper : Deeper) : Nat → Command → Reading (List Command)
  | 0, first => pure [first]
  | fuel + 1, first => do
    let t ← token deeper
    match t with
    | .op "|" => pure (first :: (← pipesFrom deeper fuel (← commandFrom deeper Look.start)))
    | .op "|&" =>
      pure (withErrors first :: (← pipesFrom deeper fuel (← commandFrom deeper Look.start)))
    | t =>
      pushBack t
      pure [first]

/-- A statement may end before this token. -/
def endsList : Token → Bool
  | .newline | .ending => true
  | t => Token.isText ";" t

/-- Reads a pipeline, which may be negated. -/
def pipelineFrom (deeper : Deeper) : Nat → Look → Reading Statement
  | 0, _ => unexpected .ending
  | fuel + 1, look => do
    let t ← token deeper look
    let dialect := (← get).dialect
    match t, dialect with
    | .keyword "!", .bash =>
      let t ← token deeper ⟨false, true, true⟩
      pushBack t
      if endsList t then pure (.pipeline true [.group []])
      else
        match ← pipelineFrom deeper fuel ⟨false, true, true⟩ with
        | .pipeline negated commands => pure (.pipeline (!negated) commands)
        | .timed plain (.pipeline negated commands) =>
          pure (.timed plain (.pipeline (!negated) commands))
        | other => pure other
    | .keyword "time", .bash =>
      let t ← token deeper ⟨false, true, true⟩
      let plain := Token.isPlain "-p" t
      let t ← if plain then token deeper ⟨false, true, true⟩ else pure t
      let t ← if Token.isPlain "--" t then token deeper ⟨false, true, true⟩ else pure t
      pushBack t
      if endsList t then pure (.timed plain (.pipeline false [.group []]))
      else pure (.timed plain (← pipelineFrom deeper fuel ⟨false, true, true⟩))
    | _, _ =>
      let negated := Token.isText "!" t
      if !negated then pushBack t
      let first ← commandFrom deeper (if negated then ⟨false, true, true⟩ else {})
      pure (.pipeline negated (← pipesFrom deeper ((← rest).length + 1) first))

/-- Reads a pipeline. -/
def pipeline (deeper : Deeper) (look : Look) : Reading Statement := do
  pipelineFrom deeper ((← rest).length + 1) look

/-- Reads what is joined to a statement. -/
def joinedFrom (deeper : Deeper) : Nat → Statement → Reading Statement
  | 0, first => pure first
  | fuel + 1, first => do
    let t ← token deeper
    match t with
    | .op "&&" => joinedFrom deeper fuel (.both first (← pipeline deeper Look.start))
    | .op "||" => joinedFrom deeper fuel (.either first (← pipeline deeper Look.start))
    | t =>
      pushBack t
      pure first

/-- Reads statements, of which one may have been read already. -/
def statementsFrom (deeper : Deeper) (extent : Extent) : Nat → Bool → Reading (List Statement)
  | 0, _ => pure []
  | fuel + 1, started => do
    let t ← token deeper ⟨extent ≠ .line, true, true⟩
    match t with
    | .newline => pure []
    | .ending =>
      pushBack t
      pure []
    | t =>
      pushBack t
      if (started || extent = .any) && Token.closes t && extent ≠ .line then pure []
      else
        let first ← pipeline deeper {}
        let first ← joinedFrom deeper ((← rest).length + 1) first
        let t ← token deeper
        let first := if Token.isText "&" t then .background first else first
        match t with
        | .ending =>
          pushBack t
          pure [first]
        | .newline =>
          pushBack t
          pure (first :: (← statementsFrom deeper extent fuel true))
        | .op "&" | .op ";" => pure (first :: (← statementsFrom deeper extent fuel true))
        | t =>
          if extent = .line then unexpected t
          else
            pushBack t
            pure [first]

/-- Reads statements. -/
def statementsOf (deeper : Deeper) (extent : Extent) : Reading (List Statement) := do
  statementsFrom deeper extent ((← rest).length + 2) false

/-- Reads statements up to a closing parenthesis, which is taken. -/
def innerOf (deeper : Deeper) : Reading (List Statement) := do
  let endLine := (← get).endLine
  modify fun src => { src with endLine := none }
  let script ← statementsOf deeper .any
  let t ← token deeper
  match t, (← get).dialect with
  | .op ")", _ =>
    modify fun src => { src with endLine }
    pure script
  | .ending, .bash => unclosed "" ')' (← get).line
  | t, _ => unexpected t (some ")")

/-- Readers for texts that are nested to some depth. -/
def readers : Nat → Deeper
  | 0 => .none
  | depth + 1 =>
    let deeper := readers depth
    ⟨partsOf deeper, statementsOf deeper, innerOf deeper, commandFrom deeper Look.start⟩

/-- The depth to which scripts are nested. -/
def maxDepth : Nat := 500

/-- Reads a line of statements, and moves past the end of that line. -/
def scriptLine : Reading (List Statement) := do
  let script ← statementsOf (readers maxDepth) .line
  modify fun src => { src with pushed := none }
  pure script

end RemoteAttach.Shell.Reading
