import RemoteAttach.Shell.Layout
import RemoteAttach.Shell.Reader

/-! Reading the form in which the larger shell shows commands from the script that they stand in.
The script has been read as commands before, so that nothing in it has to be refused. -/

namespace RemoteAttach.Shell.Layout

open Reading

/-- Readers for what lies one level deeper. -/
structure Scribe where
  deeper : Deeper
  /-- Statements up to what closes them, which may stand in the place of their output. -/
  list : Bool → Reading Layout
  /-- A command. -/
  command : Bool → Reading Layout

/-- What stands around a character of a word. -/
inductive Quote where
  | none
  | double
  | back
  deriving DecidableEq

/-- The script at the start of a text, up to the parenthesis that closes it, as it is shown in the
place of its output, and what follows. -/
def Scribe.output? (b : Scribe) (text : List Char) : Option (List Char × List Char) :=
  match (b.list true).run { rest := text, dialect := .bash } with
  | .ok (script, src) =>
    let inside := script.captured.toList
    some ((if inside.head? = some '(' then [' '] else []) ++ inside, src.rest)
  | .error _ => .none

/-- A word as it is shown: scripts in the place of their output are written anew, and texts between
dollar quotes as what they stand for. -/
def Scribe.wordText (b : Scribe) : Nat → Quote → List Char → List Char
  | 0, _, text => text
  | _, _, [] => []
  | fuel + 1, quote, c :: rest =>
    let go := fun (here : List Char) (quote : Quote) (rest : List Char) =>
      here ++ b.wordText fuel quote rest
    let output := fun (rest : List Char) =>
      match b.output? rest with
      | some (inside, after) => go (['$', '('] ++ inside ++ [')']) quote after
      | .none => '$' :: '(' :: rest
    match c, quote, rest with
    | '\\', _, '\n' :: rest => go [] quote rest
    | '\\', _, d :: rest => go ['\\', d] quote rest
    | '`', .back, _ => go ['`'] .none rest
    | c, .back, _ => go [c] .back rest
    | '\'', .none, _ =>
      let text := rest.takeWhile (· ≠ '\'')
      go ('\'' :: text ++ ['\'']) .none (rest.drop (text.length + 1))
    | '$', .none, '\'' :: rest =>
      match dollarQuoted 0 rest with
      | some (text, count) =>
        let inside := (String.ofList text).replace "'" "'\\''"
        go ('\'' :: inside.toList ++ ['\'']) .none (rest.drop count)
      | .none => '$' :: '\'' :: rest
    | '$', .none, '"' :: rest => go ['"'] .double rest
    | '"', .none, _ => go ['"'] .double rest
    | '"', .double, _ => go ['"'] .none rest
    | '`', .none, _ => go ['`'] .back rest
    | '`', .double, _ =>
      match backQuoted true rest with
      | some (_, after) => go ('`' :: rest.take (rest.length - after.length)) .double after
      | .none => '`' :: rest
    | '$', _, '(' :: '(' :: rest =>
      match arithmeticText 0 rest with
      | some (text, after) => go (['$', '(', '('] ++ text ++ [')', ')']) quote after
      | .none => output ('(' :: rest)
    | '$', _, '(' :: rest => output rest
    | c, _, _ => go [c] quote rest

/-- The text of the token that has been read last. -/
def tokenText : Reading (List Char) := do
  let src ← get
  pure (src.tokenStart.take (src.tokenStart.length - src.rest.length))

/-- The word that has been read last. -/
def Scribe.lastWord (b : Scribe) : Reading String := do
  let text ← tokenText
  pure (String.ofList (b.wordText (text.length + 1) .none text))

/-- Reads the next word. -/
def Scribe.word (b : Scribe) : Reading String := do
  let _ ← token b.deeper
  b.lastWord

/-- Reads a redirection after its operator. `holder` is the name of the variable that is to hold the
number of the stream. -/
def Scribe.redirection (b : Scribe) (holder : String) (number : Option Nat) (op : String) :
    Reading ShownRedirect := do
  let usual := if op.startsWith "<" then 0 else 1
  let isUsual := holder.isEmpty && number.getD usual = usual && op ≠ "<>"
  let number := number.getD usual
  let full := if holder.isEmpty then toString number else "\x7b" ++ holder ++ "\x7d"
  let start := if isUsual then "" else full
  if op = "<<" || op = "<<-" then
    skipBlanks
    let src ← get
    let (mark, quoted, count) := delimiter none src.rest
    let after := src.rest.drop count
    let below := after.drop (lineLength none true after + 1)
    let lines := if below.isEmpty then [] else Text.pieces ['\n'] below
    let (body, _) := linesUpTo ⟨mark, op = "<<-"⟩ (!quoted) true lines
    let _ ← textBelow b.deeper number (op = "<<-")
    let name := String.ofList mark
    pure ⟨start ++ op ++ (if quoted then "'" ++ name ++ "'" else name),
      some (String.ofList body ++ name)⟩
  else
    let word ← b.word
    let text := match op with
      | ">&" | "<&" =>
        let isPlain := word.toList.all fun c => c.isDigit || c = '-'
        (if isPlain then full else start) ++ (if word = "-" then ">&" else op) ++ word
      | "&>" | "&>>" => op ++ " " ++ word
      | op => start ++ op ++ " " ++ word
    pure ⟨text, .none⟩

/-- Reads the redirections after a command. -/
def Scribe.redirections (b : Scribe) : Nat → Reading (List ShownRedirect)
  | 0 => pure []
  | fuel + 1 => do
    let t ← token b.deeper ⟨false, true, false⟩
    match t with
    | .redirect number op =>
      let first ← b.redirection "" number op
      pure (first :: (← b.redirections fuel))
    | .redirectNamed name op =>
      let first ← b.redirection name none op
      pure (first :: (← b.redirections fuel))
    | t =>
      pushBack t
      pure []

/-- The command with the redirections that follow it. -/
def Scribe.redirected (b : Scribe) (command : Layout) : Reading Layout := do
  let all ← b.redirections ((← rest).length + 1)
  pure (if all.isEmpty then command else .redirected command all)

/-- Reads the items of a list up to the parenthesis that closes it. -/
def Scribe.items (b : Scribe) : Nat → Reading (List String)
  | 0 => pure []
  | fuel + 1 => do
    match ← token b.deeper ⟨true, false, false⟩ with
    | .word _ =>
      unread
      let key ← match ← rest with
        | '[' :: inside =>
          match Text.cutAt ']' inside with
          | some (_, '=' :: _) => do
            let text ← rest
            skip 1
            let _ ← b.deeper.parts .bracket
            skip 2
            pure (text.take (text.length - (← rest).length))
          | _ => pure []
        | _ => pure []
      let text ← rest
      let _ ← keepToken (partsOf b.deeper .word)
      let text := text.take (text.length - (← rest).length)
      let item := String.ofList (key ++ b.wordText (text.length + 1) .none text)
      pure (item :: (← b.items fuel))
    | _ => pure []

/-- Reads a list, of which the parenthesis that opens it is next. -/
def Scribe.wholeList (b : Scribe) : Reading String := do
  skip 1
  pure ("(" ++ String.intercalate " " (← b.items ((← rest).length + 1)) ++ ")")

/-- The body of a function, without its braces, and the redirections after them. -/
def unbraced : Layout → Layout × List ShownRedirect
  | .redirected (.group body) all => (body, all)
  | .group body => (body, [])
  | body => (body, [])

/-- Reads a simple command, of which some words and redirections have been read. -/
def Scribe.simple (b : Scribe) : Nat → List String → List ShownRedirect → Reading Layout
  | 0, _, _ => pure .nothing
  | fuel + 1, done, all => do
    match ← token b.deeper with
    | .redirect number op => b.simple fuel done (all ++ [← b.redirection "" number op])
    | .redirectNamed name op => b.simple fuel done (all ++ [← b.redirection name none op])
    | .word word =>
      let text ← b.lastWord
      let start := (← get).tokenStart
      match assigned? .bash start with
      | some (_, _, _, count) =>
        if (start.drop count).head? = some '(' && (← rest).head? = some '(' then
          let text := String.ofList (start.take count) ++ (← b.wholeList)
          b.simple fuel (done ++ [text]) all
        else b.simple fuel (done ++ [text]) all
      | .none =>
        if done.isEmpty && all.isEmpty && (← rest).head? = some '(' && word.plain?.isSome then
          expect b.deeper "("
          expect b.deeper ")"
          let (body, all) := unbraced (← b.command false)
          pure (.function text body all)
        else b.simple fuel (done ++ [text]) all
    | t =>
      pushBack t
      pure (if all.isEmpty then .words done else .redirected (.words done) all)

/-- Reads the branches after a condition's first word. -/
def Scribe.branches (b : Scribe) (isOutput : Bool) : Nat → Reading Layout
  | 0 => pure .nothing
  | fuel + 1 => do
    let condition ← b.list isOutput
    expect b.deeper "then"
    let yes ← b.list isOutput
    match ← token b.deeper with
    | .keyword "elif" => pure (.branch condition yes (← b.branches isOutput fuel))
    | .keyword "else" =>
      let no ← b.list isOutput
      expect b.deeper "fi"
      pure (.branch condition yes no)
    | _ => pure (.branch condition yes .nothing)

/-- Reads the body of a loop, with the words around it. -/
def Scribe.body (b : Scribe) (isOutput : Bool) : Reading Layout := do
  let t ← token b.deeper Look.start
  let body ← b.list isOutput
  expect b.deeper (if Token.isText "\x7b" t then "\x7d" else "done")
  pure body

/-- Reads words up to another token. -/
def Scribe.words (b : Scribe) : Nat → Reading (List String)
  | 0 => pure []
  | fuel + 1 => do
    match ← token b.deeper with
    | .word _ =>
      let first ← b.lastWord
      pure (first :: (← b.words fuel))
    | _ => pure []

/-- A part of the head of a loop that counts, as it is shown. -/
def countPart (text : List Char) : String :=
  let text := text.dropWhile fun c => c = ' ' || c = '\t'
  if text.isEmpty then "1" else String.ofList text

/-- Reads the head of a loop over words, after its first word. -/
def Scribe.eachHead (b : Scribe) (first : String) : Reading String := do
  let name ← b.word
  let t ← token b.deeper Look.start
  if Token.isText "in" t then
    pure (first ++ " " ++ name ++ " in " ++
      String.intercalate " " (← b.words ((← rest).length + 1)))
  else
    if !Token.isText ";" t then pushBack t
    pure (first ++ " " ++ name ++ " in \"$@\"")

/-- Reads a loop over words, or one that counts, after its first word. -/
def Scribe.each (b : Scribe) (isOutput : Bool) (first : String) : Reading Layout := do
  skipBlanks
  let counted ← match ← rest with
    | '(' :: _ => do
      skip 1
      doubleParenthesis?
    | _ => pure none
  match counted with
  | some text =>
    skip (text.length + 3)
    let pieces := Text.pieces [';'] text
    let part := fun (n : Nat) => countPart (pieces.getD n [])
    let t ← token b.deeper ⟨true, true, false⟩
    if !Token.isText ";" t then pushBack t
    let body ← b.body isOutput
    pure (.counted ("for ((" ++ part 0 ++ "; " ++ part 1 ++ "; " ++ part 2 ++ "))") body)
  | .none =>
    let head ← b.eachHead first
    pure (.each head (← b.body isOutput))

/-- Reads the patterns of a case up to the closing parenthesis. -/
def Scribe.patterns (b : Scribe) : Nat → Reading (List String)
  | 0 => pure []
  | fuel + 1 => do
    match ← token b.deeper with
    | .op ")" => pure []
    | .op _ => b.patterns fuel
    | _ =>
      let first ← b.lastWord
      pure (first :: (← b.patterns fuel))

/-- Reads the cases of a choice. -/
def Scribe.cases (b : Scribe) (isOutput : Bool) : Nat → Reading Layout
  | 0 => pure .nothing
  | fuel + 1 => do
    let t ← token b.deeper ⟨true, true, false⟩
    if Token.isText "esac" t then pure .nothing
    else
      let first ← if Token.isText "(" t then pure [] else do pure [← b.lastWord]
      let patterns := first ++ (← b.patterns ((← rest).length + 1))
      let body ← b.list isOutput
      let made := Layout.case (String.intercalate " | " patterns) body
      match ← token b.deeper ⟨true, true, false⟩ with
      | .op ending => pure (made ending (← b.cases isOutput fuel))
      | _ => pure (made ";;" .nothing)

/-- Reads the head of a choice after its first word. -/
def Scribe.choiceHead (b : Scribe) : Reading String := do
  let word ← b.word
  expect b.deeper "in" Look.start
  pure ("case " ++ word ++ " in ")

/-- Reads the words of a condition up to the brackets that close it. -/
def Scribe.test (b : Scribe) (before : String) : Nat → Reading (List String)
  | 0 => pure []
  | fuel + 1 => do
    if before = "=~" then
      skipBlanks
      beginToken
      let _ ← b.deeper.parts .expression
      let word ← b.lastWord
      pure (word :: (← b.test "" fuel))
    else
      match ← token b.deeper { newlines := true } with
      | .ending => pure []
      | _ =>
        let word ← b.lastWord
        if word = "]]" then pure []
        else
          let more ← b.test word fuel
          let isAlone := ["", "!", "(", "&&", "||"].contains before &&
            (more.isEmpty || more.head?.any [")", "&&", "||"].contains) &&
            !(["!", "(", ")", "&&", "||"].contains word)
          pure (if isAlone then "-n" :: word :: more else word :: more)

/-- Reads a command. -/
def Scribe.oneCommand (b : Scribe) (isOutput : Bool) : Reading Layout := do
  let t ← token b.deeper Look.start
  match t with
  | .keyword "if" => b.redirected (← b.branches isOutput ((← rest).length + 1))
  | .keyword "while" | .keyword "until" =>
    let word := if Token.isText "while" t then "while" else "until"
    let condition ← b.list isOutput
    b.redirected (.loop word condition (← b.body isOutput))
  | .keyword "for" => b.redirected (← b.each isOutput "for")
  | .keyword "select" => b.redirected (← b.each isOutput "select")
  | .keyword "case" =>
    let head ← b.choiceHead
    b.redirected (.choice head (← b.cases isOutput ((← rest).length + 1)))
  | .keyword "\x7b" =>
    let body ← b.list isOutput
    expect b.deeper "\x7d"
    b.redirected (.group body)
  | .keyword "[[" =>
    let words ← b.test "" ((← rest).length + 1)
    b.redirected (.words ("[[" :: words ++ ["]]"]))
  | .keyword "function" =>
    let name ← b.word
    let t ← token b.deeper Look.start
    if Token.isText "(" t then expect b.deeper ")" else pushBack t
    let (body, all) := unbraced (← b.command isOutput)
    pure (.function name body all)
  | .op "(" =>
    match ← doubleParenthesis? with
    | some text =>
      skip (text.length + 3)
      b.redirected (.words ["((" ++ String.ofList text ++ "))"])
    | .none =>
      let body ← b.list isOutput
      expect b.deeper ")"
      b.redirected (.subshell body)
  | t =>
    pushBack t
    b.simple ((← rest).length + 2) [] []

/-- The command with its errors going where its output goes. -/
def withErrors (command : Layout) : Layout :=
  let change : ShownRedirect := ⟨"2>&1", none⟩
  match command with
  | .redirected inner all => .redirected inner (all ++ [change])
  | command => .redirected command [change]

/-- Reads the commands of a pipeline, of which the first have been read. -/
def Scribe.pipes (b : Scribe) (isOutput : Bool) : Nat → Layout → Reading Layout
  | 0, first => pure first
  | fuel + 1, first => do
    let t ← token b.deeper
    match t with
    | .op "|" => b.pipes isOutput fuel (.joined first "|" (← b.oneCommand isOutput))
    | .op "|&" =>
      b.pipes isOutput fuel (.joined (withErrors first) "|" (← b.oneCommand isOutput))
    | t =>
      pushBack t
      pure first

/-- Reads a pipeline with the marks before it. -/
def Scribe.pipeline (b : Scribe) (isOutput : Bool) : Nat → Reading Layout
  | 0 => pure .nothing
  | fuel + 1 => do
    let t ← token b.deeper Look.start
    match t with
    | .keyword "!" => pure (.marked "! " (← b.pipeline isOutput fuel))
    | .keyword "time" =>
      let t ← token b.deeper Look.start
      if Token.isPlain "-p" t then pure (.marked "time -p " (← b.pipeline isOutput fuel))
      else
        pushBack t
        pure (.marked "time " (← b.pipeline isOutput fuel))
    | t =>
      pushBack t
      b.pipes isOutput ((← rest).length + 1) (← b.oneCommand isOutput)
where
  /-- The token is a word that is written like this. -/
  Token.isPlain (text : String) : Token → Bool
    | .word word => word.plain? = some text
    | _ => false

/-- Reads what is joined to a pipeline. -/
def Scribe.joins (b : Scribe) (isOutput : Bool) : Nat → Layout → Reading Layout
  | 0, first => pure first
  | fuel + 1, first => do
    let t ← token b.deeper
    let go := fun (mark : String) => do
      let second ← b.pipeline isOutput ((← rest).length + 1)
      b.joins isOutput fuel (.joined first mark second)
    match t with
    | .op "&&" => go "&&"
    | .op "||" => go "||"
    | t =>
      pushBack t
      pure first

/-- Reads statements, of which the first have been read, up to what closes them. -/
def Scribe.statements (b : Scribe) (isOutput : Bool) : Nat → Layout → String → Reading Layout
  | 0, done, _ => pure done
  | fuel + 1, done, mark => do
    let t ← token b.deeper Look.start
    pushBack t
    let isOver := match t with
      | .ending => true
      | t => Token.closes t
    if isOver then pure (if mark = "&" then .joined done mark .nothing else done)
    else
      let first ← b.pipeline isOutput ((← rest).length + 1)
      let next ← b.joins isOutput ((← rest).length + 1) first
      let done := if done.isSome then .joined done mark next else next
      let t ← token b.deeper
      match t with
      | .op "&" => b.statements isOutput fuel done "&"
      | .op ";" => b.statements isOutput fuel done ";"
      | .newline => b.statements isOutput fuel done (if isOutput then "\n" else ";")
      | t =>
        pushBack t
        pure done

/-- Readers for commands that are nested to some depth. -/
def scribes : Nat → Scribe
  | 0 => ⟨readers 0, fun _ => pure .nothing, fun _ => pure .nothing⟩
  | depth + 1 =>
    let b := { scribes depth with deeper := readers depth }
    ⟨readers (depth + 1),
      fun isOutput => do b.statements isOutput ((← rest).length + 2) .nothing ";", b.oneCommand⟩

/-- The readers for a whole script. -/
def scribe : Scribe :=
  { scribes maxDepth with deeper := readers maxDepth }

/-- What is read from a text. -/
def readFrom (text : List Char) (reading : Reading String) : String :=
  match reading.run { rest := text, dialect := .bash } with
  | .ok (shown, _) => shown
  | .error _ => ""

/-- The declaration of a function whose body stands at the start of a text. -/
def functionAt (name : String) (text : List Char) : String :=
  readFrom text do
    let (body, all) := unbraced (← scribe.command false)
    pure (body.declared name ((keywords .bash).contains name) all)

/-- The text in the environment for a function whose body stands at the start of a text. -/
def exportedAt (text : List Char) : String :=
  readFrom text do
    let (body, all) := unbraced (← scribe.command false)
    pure (body.exported all)

/-- The list at the start of a text. -/
def listAt (text : List Char) : String :=
  readFrom text scribe.wholeList

/-- The head of a loop over words at the start of a text, which follows its first word. -/
def eachAt (first : String) (text : List Char) : String :=
  readFrom text (scribe.eachHead first)

/-- The head of a choice at the start of a text, which follows its first word. -/
def choiceAt (text : List Char) : String :=
  readFrom text scribe.choiceHead

end RemoteAttach.Shell.Layout
