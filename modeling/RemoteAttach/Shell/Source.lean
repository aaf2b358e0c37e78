import RemoteAttach.Shell.Script
import RemoteAttach.Text.Split

/-! What is left of a script while it is read, its tokens, and the words in which the shells refuse
a script. -/

namespace RemoteAttach.Shell

/-- A token of a script. -/
inductive Token where
  | word (word : Word)
  | redirect (stream : Option Nat) (op : String)
  /-- A redirection of a stream whose number a variable is to hold. -/
  | redirectNamed (name : String) (op : String)
  | keyword (text : String)
  | op (text : String)
  | newline
  | ending

/-- The line that ends a text which a redirection brings along, and whether tabs at the starts of
the lines before it are dropped. -/
structure EndLine where
  text : List Char
  dropsTabs : Bool

/-- What is left of a script. -/
structure Source where
  rest : List Char
  line : Nat := 1
  dialect : Dialect := .dash
  /-- The words that stand for other text where a command may begin. -/
  aliases : List (String × String) := []
  /-- The aliases that have been replaced, each with the length of what follows its text, and
  whether the word after it may be an alias too. -/
  replaced : List (String × Nat × Bool) := []
  /-- A token that has been read and not been taken. -/
  pushed : Option Token := none
  /-- The lines that redirections have taken away below this line. -/
  taken : Nat := 0
  /-- What was left at the start of this line. -/
  lineStart : List Char := rest
  /-- What was left at the start of the last token, the line it stands on and its number. -/
  tokenStart : List Char := rest
  tokenLine : List Char := rest
  tokenNumber : Nat := line
  /-- Patterns may hold groups of patterns. -/
  grouped : Bool := false
  /-- A text is read that a redirection brings along, up to this line. -/
  endLine : Option EndLine := none
  /-- What follows that line once it has been reached. -/
  after : Option (List Char) := none
  /-- What the shell remarks while it reads, each with the number of a line. -/
  notices : List (Nat × String) := []

/-- Why a script is refused: what the shell says of it, each time with the number of a line. -/
structure Refusal where
  words : List (Nat × String)
  /-- The shell that reads the script ends with the status of the command before. -/
  keepsStatus : Bool := false

/-- Reads from a script, or refuses it. -/
abbrev Reading (α : Type) := StateT Source (Except Refusal) α

namespace Reading

/-- A character that ends a word outside quotes. -/
def isMeta (c : Char) : Bool :=
  [' ', '\t', '\n', ';', '&', '|', '(', ')', '<', '>'].contains c

/-- A parameter whose name is one character that is no letter. -/
def isSpecial (c : Char) : Bool :=
  ['@', '*', '#', '?', '$', '!', '-'].contains c || c.isDigit

/-- The words that have a meaning of their own where a command may begin. -/
def keywords (dialect : Dialect) : List String :=
  ["!", "case", "do", "done", "elif", "else", "esac", "fi", "for", "if", "in", "then", "until",
    "while", "\x7b", "\x7d"] ++
  match dialect with
  | .dash => []
  | .bash => ["[[", "function", "select", "time"]

/-- Keywords and operators that end a list of statements. -/
def closers : List String :=
  ["then", "elif", "else", "fi", "do", "done", "esac", "\x7d", ")", ";;", ";&", ";;&"]

/-- Refuses a script at a line. -/
def refuseAt {α : Type} (line : Nat) (words : List String) : Reading α := fun _ =>
  .error { words := words.map fun text => (line, text) }

/-- Refuses a script at the line that has been reached. -/
def refuse {α : Type} (words : String) : Reading α := fun src =>
  .error { words := [(src.line, words)] }

/-- What is left of the script. -/
def rest : Reading (List Char) := fun src =>
  .ok (src.rest, src)

/-- The state after a line end has been passed. -/
def nextLine (src : Source) (rest : List Char) : Source :=
  { src with rest, line := src.line + 1 + src.taken, taken := 0, lineStart := rest }

/-- The state after some characters have been passed. -/
def passed : Nat → Source → Source
  | 0, src => src
  | count + 1, src =>
    match src.rest with
    | [] => src
    | '\n' :: rest => passed count (nextLine src rest)
    | _ :: rest => passed count { src with rest }

/-- Moves past some characters. -/
def skip (count : Nat) : Reading Unit :=
  modify (passed count)

/-- Begins a line, which may end the text that is read. -/
def beginLine : Reading Unit :=
  modify fun src => match src.endLine with
    | none => src
    | some mark =>
      let rest := if mark.dropsTabs then src.rest.dropWhile (· = '\t') else src.rest
      let line := rest.takeWhile (· ≠ '\n')
      if line = mark.text then { src with rest := [], after := some (rest.drop (line.length + 1)) }
      else { src with rest }

/-- Puts `text` in the place of what is left of the script. -/
def resume (text : List Char) : Reading Unit :=
  modify fun src => { src with rest := text }

/-- The number of blanks, joined lines and characters of a comment at the start of a text. -/
def blankLength (inComment : Bool) : List Char → Nat
  | [] => 0
  | '\\' :: '\n' :: more => if inComment then 1 else 2 + blankLength false more
  | c :: more =>
    if inComment then if c = '\n' then 0 else 1 + blankLength true more
    else if c = ' ' || c = '\t' then 1 + blankLength false more
    else if c = '#' then 1 + blankLength true more
    else 0

/-- Moves past blanks and a comment. -/
def skipBlanks : Reading Unit := do
  skip (blankLength false (← rest))

/-- The operators of a shell, longest first. -/
def operators (dialect : Dialect) : List String :=
  match dialect with
  | .dash => [";;", "&&", "||", ";", "&", "|", "(", ")"]
  | .bash => [";;&", ";;", ";&", "&&", "||", "|&", ";", "&", "|", "(", ")"]

/-- The operators that redirect, longest first. -/
def redirections (dialect : Dialect) : List String :=
  match dialect with
  | .dash => ["<<-", "<<", "<&", "<>", "<", ">>", ">&", ">|", ">"]
  | .bash => ["<<<", "<<-", "<<", "<&", "<>", "<", "&>>", "&>", ">>", ">&", ">|", ">"]

/-- The redirection at the start of a text: the digits before it, and its operator. -/
def redirect? (dialect : Dialect) (text : List Char) : Option (List Char × String) :=
  let digits := text.takeWhile Char.isDigit
  let after := text.drop digits.length
  let most := match dialect with
    | .dash => 1
    | .bash => 9
  if digits.length > most then none
  else
    match (redirections dialect).find? fun op => op.toList.isPrefixOf after with
    | none => none
    | some op =>
      if op.startsWith "&" && !digits.isEmpty then none
      else if dialect = .bash && (op = "<" || op = ">") && (after.drop 1).head? == some '(' then
        none
      else some (digits, op)

/-- The redirection of the larger shell at the start of a text whose stream a variable is to name:
the name between braces, and the operator. -/
def redirectNamed? (dialect : Dialect) (text : List Char) : Option (List Char × String) :=
  match dialect, text with
  | .bash, '\x7b' :: rest =>
    let name := rest.takeWhile isNameChar
    match rest.drop name.length with
    | '\x7d' :: after =>
      if name.head?.any isNameStart then
        match redirect? .bash after with
        | some ([], op) => if op.startsWith "&" then none else some (name, op)
        | _ => none
      else none
    | _ => none
  | _, _ => none

/-- A token as the shell shows it. -/
def shown (dialect : Dialect) (token : Token) (text : List Char) : String :=
  match dialect, token with
  | .dash, .word _ => "word"
  | .dash, .redirect .. | .dash, .redirectNamed .. => "redirection"
  | .dash, .ending => "end of file"
  | .dash, .keyword text | .dash, .op text => "\"" ++ text ++ "\""
  | _, .newline => "newline"
  | .bash, .redirect _ op | .bash, .redirectNamed _ op | .bash, .op op => op
  | .bash, _ => String.ofList text

/-- Refuses a token. -/
def unexpected {α : Type} (token : Token) (expecting : Option String := none) : Reading α := do
  let src ← get
  match src.dialect, token with
  | .dash, _ =>
    let hint := match expecting with
      | some "word" => " (expecting word)"
      | some text => " (expecting \"" ++ text ++ "\")"
      | none => ""
    refuse ("Syntax error: " ++ shown .dash token [] ++ " unexpected" ++ hint)
  | .bash, .ending => refuse "syntax error: unexpected end of file"
  | .bash, _ =>
    let text := src.tokenStart.take (src.tokenStart.length - src.rest.length)
    let line := String.ofList (src.tokenLine.takeWhile (· ≠ '\n'))
    refuseAt src.tokenNumber
      ["syntax error near unexpected token `" ++ shown .bash token text ++ "'",
        "`" ++ line ++ "'"]

/-- Refuses a text that opens something and does not close it. -/
def unclosed {α : Type} (dashWords : String) (mark : Char) (line : Nat) : Reading α := do
  match (← get).dialect with
  | .dash => refuse ("Syntax error: " ++ dashWords)
  | .bash =>
    refuseAt line ["unexpected EOF while looking for matching `" ++ mark.toString ++ "'"]

/-- Marks the start of a token. -/
def beginToken : Reading Unit :=
  modify fun src => { src with
    tokenStart := src.rest, tokenLine := src.lineStart, tokenNumber := src.line }

/-- Gives a token back, so that it is read again. -/
def pushBack (token : Token) : Reading Unit :=
  modify fun src => { src with pushed := some token }

/-- What is left of the script, with a token that has been given back. -/
def ahead : Reading (List Char) := fun src =>
  .ok (if src.pushed.isSome then src.tokenStart else src.rest, src)

/-- Where a run of word parts ends. -/
inductive Stop where
  /-- At a character that ends a word. -/
  | word
  /-- At a double quote, which may stand between braces. -/
  | quote (braced : Bool)
  /-- At a closing brace, or at one of the other characters. -/
  | brace (quoted : Bool) (others : List Char)
  /-- At the bracket that closes the key of a list. -/
  | bracket
  /-- At the parenthesis that closes a group of patterns. -/
  | group
  /-- After two parentheses that close an arithmetic expression. -/
  | sum
  /-- At a blank outside parentheses. -/
  | expression
  /-- At the end of the text. -/
  | text
  deriving DecidableEq

/-- Parts up to the stop count as quoted. -/
def Stop.quoted : Stop → Bool
  | quote _ | text | sum => true
  | brace quoted _ => quoted
  | word | bracket | group | expression => false

/-- The stop ends a run at this character. -/
def Stop.endsAt : Stop → Char → Bool
  | word, c => isMeta c
  | quote _, c => c = '"'
  | brace _ others, c => c = '\x7d' || others.contains c
  | bracket, c => c = ']'
  | group, c => c = ')'
  | expression, c => c = ' ' || c = '\t' || c = '\n'
  | sum, _ | text, _ => false

/-- A backslash before this character protects it, where a run up to the stop is quoted. -/
def Stop.protects : Stop → Char → Bool
  | text, c => c = '$' || c = '`' || c = '\\'
  | quote braced, c => c = '$' || c = '`' || c = '\\' || c = '"' || (braced && c = '\x7d')
  | brace _ _, c => c = '$' || c = '`' || c = '\\' || c = '"' || c = '\x7d'
  | _, c => c = '$' || c = '`' || c = '\\' || c = '"'

/-- A character that means more than itself inside the run. -/
def Stop.isActive (stop : Stop) (c : Char) : Bool :=
  c = '\\' || c = '$' || c = '`' || c = '"' || stop.endsAt c ||
    (!stop.quoted && c = '\'') || ((stop = sum || stop = expression) && (c = '(' || c = ')'))

/-- The text inside back quotes, without the backslashes that protect it, and what follows. -/
def backQuoted (quoted : Bool) : List Char → Option (List Char × List Char)
  | [] => none
  | '`' :: more => some ([], more)
  | '\\' :: c :: more =>
    let kept := if c = '`' || c = '\\' || c = '$' || (quoted && c = '"') then [c] else ['\\', c]
    (backQuoted quoted more).map fun (text, more) => (kept ++ text, more)
  | c :: more => (backQuoted quoted more).map fun (text, more) => (c :: text, more)

/-- The text up to two parentheses that close what is open, and what follows them. -/
def arithmeticText (depth : Nat) : List Char → Option (List Char × List Char)
  | [] => none
  | ')' :: rest =>
    match depth, rest with
    | 0, ')' :: rest => some ([], rest)
    | 0, _ => none
    | depth + 1, _ => (arithmeticText depth rest).map fun (text, after) => (')' :: text, after)
  | c :: rest =>
    (arithmeticText (if c = '(' then depth + 1 else depth) rest).map fun (text, after) =>
      (c :: text, after)

/-- A backslash at the end of the line joins it to the next one. -/
def joinsNext (line : List Char) : Bool :=
  (line.reverse.takeWhile (· = '\\')).length % 2 = 1

/-- The lines of a text up to its end line, their number with that line, what follows, and whether
the end was found. Where lines are joined, one that another goes on with does not end the text. -/
def linesUpTo (mark : EndLine) (joins : Bool) (isOwn : Bool) :
    List (List Char) → List Char × Nat × List Char × Bool
  | [] => ([], 0, [], false)
  | line :: more =>
    let line := if mark.dropsTabs && isOwn then line.dropWhile (· = '\t') else line
    if isOwn && line = mark.text then ([], 1, List.intercalate ['\n'] more, true)
    else if more.isEmpty && line.isEmpty then ([], 0, [], false)
    else
      let (body, count, after, found) := linesUpTo mark joins (!(joins && joinsNext line)) more
      (line ++ (if more.isEmpty then [] else '\n' :: body), count + 1, after, found)

/-- The word that ends a text which a redirection brings along: its text, whether any of it is
quoted, and the number of its characters. -/
def delimiter : Option Char → List Char → List Char × Bool × Nat
  | _, [] => ([], false, 0)
  | none, '\\' :: c :: rest =>
    let (text, _, count) := delimiter none rest
    (c :: text, true, count + 2)
  | some '"', '\\' :: c :: rest =>
    let (text, quoted, count) := delimiter (some '"') rest
    ((if c = '"' || c = '\\' || c = '$' || c = '`' then [c] else ['\\', c]) ++ text, quoted,
      count + 2)
  | some q, c :: rest =>
    if c = q then
      let (text, _, count) := delimiter none rest
      (text, true, count + 1)
    else
      let (text, quoted, count) := delimiter (some q) rest
      (c :: text, quoted, count + 1)
  | none, c :: rest =>
    if c = '\'' || c = '"' then
      let (text, _, count) := delimiter (some c) rest
      (text, true, count + 1)
    else if isMeta c then ([], false, 0)
    else
      let (text, quoted, count) := delimiter none rest
      (c :: text, quoted, count + 1)

/-- A word with a part before it; literal texts of one kind are joined. -/
def consPart (part : Part) (word : Word) : Word :=
  match part, word with
  | .literal text quoted, .literal more quoted' :: rest =>
    if quoted = quoted' then .literal (text ++ more) quoted :: rest else part :: word
  | _, _ => part :: word

/-- The start of an assignment: its name, the text of its key in brackets if it has one, whether it
appends, and the number of its characters. -/
def assigned? (dialect : Dialect) (text : List Char) :
    Option (List Char × Option (List Char) × Bool × Nat) :=
  let name := text.takeWhile isNameChar
  if !name.head?.any isNameStart then none
  else
    let after := text.drop name.length
    let key : Option (List Char × List Char) := match dialect, after with
      | .bash, '[' :: rest => Text.cutAt ']' rest
      | _, _ => none
    let (keyLength, after) := match key with
      | some (key, after) => (key.length + 2, after)
      | none => (0, after)
    match dialect, after with
    | _, '=' :: _ => some (name, key.map (·.1), false, name.length + keyLength + 1)
    | .bash, '+' :: '=' :: _ => some (name, key.map (·.1), true, name.length + keyLength + 2)
    | _, _ => none

end Reading

end RemoteAttach.Shell
