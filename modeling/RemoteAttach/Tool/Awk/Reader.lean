import RemoteAttach.Text.Regex.Reader
import RemoteAttach.Tool.Awk.Program
import RemoteAttach.Tool.Awk.Token

/-! Reading programs of the pattern language. -/

namespace RemoteAttach.Tool.Awk

/-- What is left of a program while it is read. -/
structure Unread where
  rest : List Char
  /-- The number of the line. -/
  line : Nat := 1
  /-- The numbers of blocks, loops and functions around this place. -/
  braces : Nat := 0
  loops : Nat := 0
  inFunction : Bool := false
  inRecords : Bool := true

/-- Reads from a program. -/
abbrev Reading := EStateM Fault Unread

/-- How an expression is read. -/
structure Place where
  /-- A sign for greater sends output to a file. -/
  inPrint : Bool := false
  /-- The word for membership ends the expression. -/
  inHead : Bool := false

/-- What keeps a text from being a regular expression. -/
def regexReason : Regex.Refusal → String
  | .nothingBefore => "missing operand"
  | .unmatchedOpen => "missing ')'"
  | .unmatchedClose => "missing '('"
  | .unmatchedBracket | .lone => "missing ']'"
  | .interval | .tooBig | .unmatchedBrace => "bad interval expression"
  | .trailingBackslash => "trailing backslash"
  | .collation | .className | .backReference | .range => "bad class"

/-- The expression that a text writes. -/
def regexOf (text : List Char) : Except String Regex :=
  if text.isEmpty then .ok .empty
  else
    let form : Regex.Form :=
      { extended := true, strict := true, paired := true, escapes := true, filled := true
        counts := false }
    match Regex.read form text with
    | .ok r => .ok r
    | .error refusal => .error (regexReason refusal)

namespace Reading

/-- The next token, which is not passed. -/
def peek : Reading Token := do
  match Token.read (← get).rest with
  | .ok (token, _) => pure token
  | .error fault => throw fault

/-- The next token, which is then passed. -/
def take : Reading Token := do
  let u ← get
  match Token.read u.rest with
  | .ok (token, rest) =>
    let used := u.rest.take (u.rest.length - rest.length)
    set { u with rest, line := u.line + used.count '\n' }
    pure token
  | .error fault => throw fault

/-- Tells whether the next token is a sign. -/
def isAt (s : String) : Reading Bool := do
  match ← peek with
  | .sign t => pure (s = t)
  | _ => pure false

/-- Tells whether the next token is a word. -/
def isAtWord (s : String) : Reading Bool := do
  match ← peek with
  | .keyword t => pure (s = t)
  | _ => pure false

/-- Passes the next token if it is a sign, and tells whether it is. -/
def passes (s : String) : Reading Bool := do
  if ← isAt s then
    let _ ← take
    pure true
  else pure false

/-- Refuses the next token. -/
def refuse {α : Type} : Reading α := do
  match ← peek with
  | .stop =>
    if (← get).braces ≠ 0 then
      modify fun u => { u with line := u.line + 1 }
      throw (.missing '\x7d' "end of file")
    else throw (.unexpected "end of line")
  | token => throw (.unexpected token.shown)

/-- Passes a sign. -/
def expect (s : String) : Reading Unit := do
  if !(← passes s) then
    if s = ")" then throw (.missing ')' (← peek).shown) else refuse

/-- Passes line ends. -/
def skipLines : Nat → Reading Unit
  | 0 => pure ()
  | fuel + 1 => do
    match ← peek with
    | .newline =>
      let _ ← take
      skipLines fuel
    | _ => pure ()

/-- Passes all line ends. -/
def lineEnds : Reading Unit := do
  skipLines ((← get).rest.length + 1)

/-- The text of a regular expression up to its slash, and what follows. -/
def regexText (inBrackets : Bool) (done : List Char) : List Char → Option (List Char × List Char)
  | '\\' :: '/' :: rest => regexText inBrackets ('/' :: done) rest
  | '\\' :: c :: rest => regexText inBrackets (c :: '\\' :: done) rest
  | '\n' :: _ | [] => none
  | '/' :: rest =>
    if inBrackets then regexText true ('/' :: done) rest else some (done.reverse, rest)
  | '[' :: ':' :: rest =>
    if inBrackets then regexText true (':' :: '[' :: done) rest
    else regexText true (':' :: '[' :: done) rest
  | '[' :: '^' :: ']' :: rest => regexText true (']' :: '^' :: '[' :: done) rest
  | '[' :: ']' :: rest => regexText true (']' :: '[' :: done) rest
  | '[' :: rest => regexText true ('[' :: done) rest
  | ':' :: ']' :: rest => regexText inBrackets (']' :: ':' :: done) rest
  | ']' :: rest => regexText false (']' :: done) rest
  | c :: rest => regexText inBrackets (c :: done) rest

/-- Reads a regular expression after its slash. -/
def regex : Reading Expr := do
  let u ← get
  match regexText false [] u.rest with
  | none =>
    throw (.openRegex ("/" ++ String.ofList ((u.rest.takeWhile (· ≠ '\n')).take 10)))
  | some (text, rest) =>
    set { u with rest }
    match regexOf text with
    | .ok r => pure (.regex r)
    | .error reason => throw (.regex reason (String.ofList text))

/-- The operation of a sign that assigns. -/
def assignment? : Token → Option (Option Arithmetic)
  | .sign "=" => some none
  | .sign "+=" => some (some .add)
  | .sign "-=" => some (some .sub)
  | .sign "*=" => some (some .mul)
  | .sign "/=" => some (some .div)
  | .sign "%=" => some (some .rem)
  | .sign "^=" => some (some .pow)
  | _ => none

/-- An expression can be assigned to. -/
def isTarget : Expr → Bool
  | .var _ | .field _ | .item .. => true
  | _ => false

/-- An expression may begin with the token, where another one has just ended. -/
def beginsOperand : Token → Bool
  | .number .. | .text _ | .name _ | .called _ | .builtin _ => true
  | .sign s => s = "$" || s = "(" || s = "!" || s = "++" || s = "--"
  | _ => false

/-- The comparison of a sign. -/
def comparison? (p : Place) : Token → Option Comparison
  | .sign "<" => some .less
  | .sign "<=" => some .lessOrEqual
  | .sign "==" => some .equal
  | .sign "!=" => some .notEqual
  | .sign ">" => if p.inPrint then none else some .greater
  | .sign ">=" => some .greaterOrEqual
  | _ => none

/-- The numbers of arguments that a function of the language takes. -/
def argumentRange : String → Nat × Nat
  | "atan2" | "index" | "match" => (2, 2)
  | "close" | "cos" | "exp" | "int" | "log" | "sin" | "sqrt" | "system" | "tolower"
  | "toupper" => (1, 1)
  | "fflush" | "srand" | "length" => (0, 1)
  | "gsub" | "split" | "sub" | "substr" => (2, 3)
  | "mktime" => (1, 1)
  | "strftime" => (0, 3)
  | "sprintf" => (1, 1000)
  | _ => (0, 0)

mutual

/-- Reads an expression. -/
def expr (p : Place) : Nat → Reading Expr
  | 0 => throw .tooLong
  | fuel + 1 => do
    let e ← disjunction p fuel
    if ← passes "?" then
      lineEnds
      let yes ← expr p fuel
      lineEnds
      expect ":"
      lineEnds
      let no ← expr p fuel
      pure (.choose e yes no)
    else pure e

/-- Reads alternatives. -/
def disjunction (p : Place) : Nat → Reading Expr
  | 0 => throw .tooLong
  | fuel + 1 => do
    disjunctionFrom p fuel (← conjunction p fuel)

/-- Reads more alternatives. -/
def disjunctionFrom (p : Place) : Nat → Expr → Reading Expr
  | 0, _ => throw .tooLong
  | fuel + 1, e => do
    if ← passes "||" then
      lineEnds
      disjunctionFrom p fuel (.or e (← conjunction p fuel))
    else pure e

/-- Reads conditions that all have to hold. -/
def conjunction (p : Place) : Nat → Reading Expr
  | 0 => throw .tooLong
  | fuel + 1 => do
    conjunctionFrom p fuel (← membership p fuel)

/-- Reads more conditions that all have to hold. -/
def conjunctionFrom (p : Place) : Nat → Expr → Reading Expr
  | 0, _ => throw .tooLong
  | fuel + 1, e => do
    if ← passes "&&" then
      lineEnds
      conjunctionFrom p fuel (.and e (← membership p fuel))
    else pure e

/-- Reads tests for keys of tables. -/
def membership (p : Place) : Nat → Reading Expr
  | 0 => throw .tooLong
  | fuel + 1 => do
    membershipFrom p fuel (← fit p fuel)

/-- Reads more tests for keys of tables. -/
def membershipFrom (p : Place) : Nat → Expr → Reading Expr
  | 0, _ => throw .tooLong
  | fuel + 1, e => do
    if !p.inHead && (← isAtWord "in") then
      let _ ← take
      match ← take with
      | .name table =>
        let keys := match e with
          | .tuple es => es
          | e => [e]
        membershipFrom p fuel (.member keys table)
      | token => throw (.unexpected token.shown)
    else
      match e with
      | .tuple _ => if p.inPrint || p.inHead then pure e else refuse
      | e => pure e

/-- Reads tests for regular expressions. -/
def fit (p : Place) : Nat → Reading Expr
  | 0 => throw .tooLong
  | fuel + 1 => do
    fitFrom p fuel (← relation p fuel)

/-- Reads more tests for regular expressions. -/
def fitFrom (p : Place) : Nat → Expr → Reading Expr
  | 0, _ => throw .tooLong
  | fuel + 1, e => do
    if ← passes "~" then fitFrom p fuel (.fits false e (← relation p fuel))
    else if ← passes "!~" then fitFrom p fuel (.fits true e (← relation p fuel))
    else pure e

/-- Reads comparisons. -/
def relation (p : Place) : Nat → Reading Expr
  | 0 => throw .tooLong
  | fuel + 1 => do
    relationFrom p fuel (← joined p fuel)

/-- Reads more comparisons. -/
def relationFrom (p : Place) : Nat → Expr → Reading Expr
  | 0, _ => throw .tooLong
  | fuel + 1, e => do
    match comparison? p (← peek) with
    | some comparison =>
      let _ ← take
      relationFrom p fuel (.compare comparison e (← joined p fuel))
    | none => pure e

/-- Reads texts that are joined. -/
def joined (p : Place) : Nat → Reading Expr
  | 0 => throw .tooLong
  | fuel + 1 => do
    joinedFrom p fuel (← sum p fuel)

/-- Reads more texts that are joined. -/
def joinedFrom (p : Place) : Nat → Expr → Reading Expr
  | 0, _ => throw .tooLong
  | fuel + 1, e => do
    if beginsOperand (← peek) then joinedFrom p fuel (.concat e (← sum p fuel)) else pure e

/-- Reads sums. -/
def sum (p : Place) : Nat → Reading Expr
  | 0 => throw .tooLong
  | fuel + 1 => do
    sumFrom p fuel (← product p fuel)

/-- Reads more of a sum. -/
def sumFrom (p : Place) : Nat → Expr → Reading Expr
  | 0, _ => throw .tooLong
  | fuel + 1, e => do
    if ← passes "+" then sumFrom p fuel (.arithmetic .add e (← product p fuel))
    else if ← passes "-" then sumFrom p fuel (.arithmetic .sub e (← product p fuel))
    else pure e

/-- Reads products. -/
def product (p : Place) : Nat → Reading Expr
  | 0 => throw .tooLong
  | fuel + 1 => do
    productFrom p fuel (← signed p fuel)

/-- Reads more of a product. -/
def productFrom (p : Place) : Nat → Expr → Reading Expr
  | 0, _ => throw .tooLong
  | fuel + 1, e => do
    if ← passes "*" then productFrom p fuel (.arithmetic .mul e (← signed p fuel))
    else if ← passes "/" then productFrom p fuel (.arithmetic .div e (← signed p fuel))
    else if ← passes "%" then productFrom p fuel (.arithmetic .rem e (← signed p fuel))
    else pure e

/-- Reads signs and negations. -/
def signed (p : Place) : Nat → Reading Expr
  | 0 => throw .tooLong
  | fuel + 1 => do
    if ← passes "!" then pure (.not (← signed p fuel))
    else if ← passes "-" then pure (.negate (← signed p fuel))
    else if ← passes "+" then pure (.plus (← signed p fuel))
    else piped p fuel (← power p fuel)

/-- Reads lines from commands. -/
def piped (p : Place) : Nat → Expr → Reading Expr
  | 0, _ => throw .tooLong
  | fuel + 1, e => do
    let before ← get
    if ← passes "|" then
      if ← isAtWord "getline" then
        let _ ← take
        let target ← target? p fuel
        piped p fuel (.getline .command (some e) target)
      else
        set before
        pure e
    else pure e

/-- Reads a target, if there is one. -/
def target? (p : Place) : Nat → Reading (Option Expr)
  | 0 => throw .tooLong
  | fuel + 1 => do
    match ← peek with
    | .name _ | .sign "$" => pure (some (← operand p fuel))
    | _ => pure none

/-- Reads powers. -/
def power (p : Place) : Nat → Reading Expr
  | 0 => throw .tooLong
  | fuel + 1 => do
    let e ← stepped p fuel
    if ← passes "^" then
      let exponent ← if ← passes "-" then do
          pure (Expr.negate (← power p fuel))
        else if ← passes "+" then power p fuel
        else if ← passes "!" then do
          pure (Expr.not (← power p fuel))
        else power p fuel
      pure (.arithmetic .pow e exponent)
    else pure e

/-- Reads steps up and down, and assignments. -/
def stepped (p : Place) : Nat → Reading Expr
  | 0 => throw .tooLong
  | fuel + 1 => do
    if ← passes "++" then pure (.step true true (← operand p fuel))
    else if ← passes "--" then pure (.step false true (← operand p fuel))
    else
      let e ← operand p fuel
      if !isTarget e then pure e
      else if ← passes "++" then pure (.step true false e)
      else if ← passes "--" then pure (.step false false e)
      else
        match assignment? (← peek) with
        | some operation =>
          let _ ← take
          lineEnds
          pure (.assign operation e (← expr p fuel))
        | none => pure e

/-- Reads an operand. -/
def operand (p : Place) : Nat → Reading Expr
  | 0 => throw .tooLong
  | fuel + 1 => do
    match ← peek with
    | .number x _ =>
      let _ ← take
      pure (.number x)
    | .text s =>
      let _ ← take
      pure (.text s)
    | .sign "/" =>
      let _ ← take
      regex
    | .sign "/=" =>
      let _ ← take
      modify fun u => { u with rest := '=' :: u.rest }
      regex
    | .sign "$" =>
      let _ ← take
      if ← passes "++" then pure (.field (.step true true (← operand p fuel)))
      else if ← passes "--" then pure (.field (.step false true (← operand p fuel)))
      else if ← passes "-" then pure (.field (.negate (← operand p fuel)))
      else pure (.field (← operand p fuel))
    | .sign "(" =>
      let _ ← take
      let es ← exprs fuel
      expect ")"
      match es with
      | [e] => pure (.group e)
      | es => pure (.tuple es)
    | .sign "-" =>
      let _ ← take
      pure (.negate (← power p fuel))
    | .sign "+" =>
      let _ ← take
      pure (.plus (← power p fuel))
    | .sign "!" =>
      let _ ← take
      pure (.not (← power p fuel))
    | .name s =>
      let _ ← take
      if ← passes "[" then
        let keys ← exprs fuel
        expect "]"
        pure (.item s keys)
      else pure (.var s)
    | .called s =>
      let _ ← take
      pure (.call s (← arguments fuel))
    | .builtin s =>
      let _ ← take
      if ← isAt "(" then
        let args ← arguments fuel
        let (least, most) := argumentRange s
        if args.length < least || most < args.length then
          if s = "length" then throw (.unexpected ",") else throw (.argumentCount s)
        pure (.builtin s args)
      else if s = "length" then pure (.builtin s [])
      else refuse
    | .keyword "getline" =>
      let _ ← take
      let target ← target? p fuel
      if ← passes "<" then
        pure (.getline .file (some (← stepped p fuel)) target)
      else pure (.getline .input none target)
    | _ => refuse

/-- Reads arguments in parentheses. -/
def arguments : Nat → Reading (List Expr)
  | 0 => throw .tooLong
  | fuel + 1 => do
    expect "("
    lineEnds
    if ← passes ")" then pure []
    else
      let es ← exprs fuel
      if !(← isAt ")") then
        match ← peek with
        | .stop => throw (.missing ')' "end of line")
        | _ => pure ()
      expect ")"
      pure es

/-- Reads expressions with commas between them. -/
def exprs : Nat → Reading (List Expr)
  | 0 => throw .tooLong
  | fuel + 1 => do
    lineEnds
    match ← peek with
    | .stop => throw (.missing ')' "end of line")
    | _ => pure ()
    let e ← expr {} fuel
    lineEnds
    if ← passes "," then
      lineEnds
      pure (e :: (← exprs fuel))
    else pure [e]

end

/-- Reads the values that are printed. -/
def printed : Nat → Reading (List Expr)
  | 0 => throw .tooLong
  | fuel + 1 => do
    match ← peek with
    | .newline | .stop | .sign ";" | .sign "\x7d" | .sign ">" | .sign ">>" | .sign "|" => pure []
    | _ =>
      let e ← expr { inPrint := true } ((← get).rest.length * 20 + 100)
      if ← passes "," then
        lineEnds
        match ← peek with
        | .newline | .stop | .sign ";" | .sign "\x7d" | .sign ">" | .sign ">>" | .sign "|" => refuse
        | _ => pure ()
        pure (e :: (← printed fuel))
      else
        match e with
        | .tuple es => pure es
        | .group e => pure [e]
        | e => pure [e]

/-- A measure that is enough for any expression in what is left. -/
def enough : Reading Nat := do
  pure ((← get).rest.length * 20 + 100)

/-- Reads an expression. -/
def wholeExpr : Reading Expr := do
  expr {} (← enough)

/-- Reads where output goes. -/
def aim : Reading Aim := do
  if ← passes ">" then
    pure (.file (← joined { inPrint := true } (← enough)))
  else if ← passes ">>" then
    pure (.append (← joined { inPrint := true } (← enough)))
  else if ← passes "|" then
    pure (.command (← joined { inPrint := true } (← enough)))
  else pure .output

/-- Reads the end of a simple statement. -/
def endOfStatement : Reading Unit := do
  match ← peek with
  | .newline | .sign ";" =>
    let _ ← take
    lineEnds
  | .sign "\x7d" => pure ()
  | .stop => pure ()
  | _ => refuse

/-- The keys of a loop over a table, if a head is one. -/
def keysHead? : Reading (Option (String × String)) := do
  let before ← get
  match ← take with
  | .name key =>
    if ← isAtWord "in" then
      let _ ← take
      match ← take with
      | .name table =>
        if ← passes ")" then pure (some (key, table))
        else
          set before
          pure none
      | _ =>
        set before
        pure none
    else
      set before
      pure none
  | _ =>
    set before
    pure none

/-- Reads something within a loop. -/
def inLoop {α : Type} (action : Reading α) : Reading α := do
  modify fun u => { u with loops := u.loops + 1 }
  let a ← action
  modify fun u => { u with loops := u.loops - 1 }
  pure a

/-- Reads a value, if there is one before the end of a statement. -/
def value? : Reading (Option Expr) := do
  match ← peek with
  | .newline | .stop | .sign ";" | .sign "\x7d" => pure none
  | _ => pure (some (← wholeExpr))

/-- Reads a statement without a block. -/
def simple : Reading Statement := do
  match ← peek with
  | .keyword "print" =>
    let _ ← take
    let args ← printed ((← get).rest.length + 1)
    pure (.print args (← aim))
  | .keyword "printf" =>
    let _ ← take
    let args ← printed ((← get).rest.length + 1)
    if args.isEmpty then throw .printfArguments
    pure (.printf args (← aim))
  | .keyword "break" =>
    let _ ← take
    if (← get).loops = 0 then throw (.outside "break statement outside of loop")
    pure .breakLoop
  | .keyword "continue" =>
    let _ ← take
    if (← get).loops = 0 then throw (.outside "continue statement outside of loop")
    pure .continueLoop
  | .keyword "next" =>
    let _ ← take
    if !(← get).inRecords then throw (.outside "improper use of next")
    pure .nextRecord
  | .keyword "nextfile" =>
    let _ ← take
    if !(← get).inRecords then throw (.outside "improper use of nextfile")
    pure .nextFile
  | .keyword "exit" =>
    let _ ← take
    pure (.exit (← value?))
  | .keyword "return" =>
    let _ ← take
    if !(← get).inFunction then throw (.outside "return outside function body")
    pure (.giveBack (← value?))
  | .keyword "delete" =>
    let _ ← take
    match ← take with
    | .name table =>
      if ← passes "[" then
        let keys ← exprs (← enough)
        expect "]"
        pure (.delete table keys)
      else pure (.deleteAll table)
    | token => throw (.unexpected token.shown)
  | _ => pure (.expr (← wholeExpr))

mutual

/-- Reads a statement, with the line ends after it. -/
def statement : Nat → Reading Statement
  | 0 => throw .tooLong
  | fuel + 1 => do
    match ← peek with
    | .sign "\x7b" =>
      let body ← block fuel
      lineEnds
      pure (.block body)
    | .sign ";" =>
      let _ ← take
      lineEnds
      pure (.block [])
    | .keyword "if" =>
      let _ ← take
      expect "("
      let condition ← wholeExpr
      expect ")"
      lineEnds
      let yes ← statement fuel
      if ← passes ";" then lineEnds
      if ← isAtWord "else" then
        let _ ← take
        lineEnds
        pure (.branch condition yes (some (← statement fuel)))
      else pure (.branch condition yes none)
    | .keyword "while" =>
      let _ ← take
      expect "("
      let condition ← wholeExpr
      expect ")"
      if ← passes ";" then
        lineEnds
        pure (.whileLoop condition (.block []))
      else
        lineEnds
        pure (.whileLoop condition (← inLoop (statement fuel)))
    | .keyword "do" =>
      let _ ← take
      lineEnds
      let body ← inLoop (statement fuel)
      if ← isAtWord "while" then
        let _ ← take
        expect "("
        let condition ← wholeExpr
        expect ")"
        endOfStatement
        pure (.doLoop body condition)
      else refuse
    | .keyword "for" =>
      let _ ← take
      expect "("
      match ← keysHead? with
      | some (key, table) =>
        lineEnds
        pure (.forKeys (.var key) table (← inLoop (statement fuel)))
      | none =>
        let part (mark : String) : Reading (Option Expr) := do
          if ← passes mark then pure none
          else
            let e ← wholeExpr
            expect mark
            pure (some e)
        let start ← part ";"
        lineEnds
        let condition ← part ";"
        lineEnds
        let next ← part ")"
        if ← passes ";" then
          lineEnds
          pure (.forLoop start condition next (.block []))
        else
          lineEnds
          pure (.forLoop start condition next (← inLoop (statement fuel)))
    | _ =>
      let s ← simple
      endOfStatement
      pure s

/-- Reads statements in braces. -/
def block : Nat → Reading (List Statement)
  | 0 => throw .tooLong
  | fuel + 1 => do
    expect "\x7b"
    modify fun u => { u with braces := u.braces + 1 }
    lineEnds
    let body ← statements fuel
    expect "\x7d"
    modify fun u => { u with braces := u.braces - 1 }
    pure body

/-- Reads statements up to a closing brace. -/
def statements : Nat → Reading (List Statement)
  | 0 => throw .tooLong
  | fuel + 1 => do
    match ← peek with
    | .sign "\x7d" => pure []
    | .stop => refuse
    | _ =>
      let s ← statement fuel
      pure (s :: (← statements fuel))

end

/-- Reads an action. -/
def action (inRecords : Bool) : Reading (List Statement) := do
  modify fun u => { u with inRecords }
  let body ← block ((← get).rest.length + 10)
  modify fun u => { u with inRecords := true }
  pure body

/-- Reads the names of parameters. -/
def params : Nat → Reading (List String)
  | 0 => throw .tooLong
  | fuel + 1 => do
    match ← take with
    | .name s =>
      if ← passes "," then
        lineEnds
        pure (s :: (← params fuel))
      else
        expect ")"
        pure [s]
    | .sign ")" => pure []
    | token => throw (.unexpected token.shown)

/-- Reads a function after its word. -/
def function : Reading Function := do
  let name ← match ← take with
    | .name s | .called s => pure s
    | token => throw (.unexpected token.shown)
  expect "("
  let params ← params ((← get).rest.length + 1)
  lineEnds
  modify fun u => { u with inFunction := true }
  let body ← action true
  modify fun u => { u with inFunction := false }
  pure ⟨name, params, body⟩

/-- Reads a rule. -/
def rule : Reading Rule := do
  let ruleOf (pattern : Pattern) : Reading Rule := do
    if ← isAt "\x7b" then
      pure ⟨pattern, some (← action true)⟩
    else pure ⟨pattern, none⟩
  match ← peek with
  | .keyword "BEGIN" =>
    let _ ← take
    if ← isAt "\x7b" then pure ⟨.atStart, some (← action false)⟩ else refuse
  | .keyword "END" =>
    let _ ← take
    if ← isAt "\x7b" then pure ⟨.atEnd, some (← action false)⟩ else refuse
  | .sign "\x7b" => ruleOf .always
  | _ =>
    let first ← wholeExpr
    if ← passes "," then
      lineEnds
      let last ← wholeExpr
      ruleOf (.range first last)
    else ruleOf (.holds first)

/-- Reads a program. -/
def programFrom : Nat → Program → Reading Program
  | 0, _ => throw .tooLong
  | fuel + 1, program => do
    lineEnds
    match ← peek with
    | .stop =>
      pure { rules := program.rules.reverse, functions := program.functions.reverse }
    | .keyword "function" =>
      let _ ← take
      let f ← function
      ends
      programFrom fuel { program with functions := f :: program.functions }
    | .sign "\x7d" => throw (.extra '\x7d')
    | _ =>
      let r ← rule
      ends
      programFrom fuel { program with rules := r :: program.rules }
where
  /-- Passes what may stand between rules. -/
  ends : Reading Unit := do
    lineEnds
    let _ ← passes ";"

end Reading

/-- The program that a text writes, or what is wrong and in which line. -/
def Program.read (text : List Char) : Except (Fault × Nat) Program :=
  match (Reading.programFrom (text.length + 2) {}).run { rest := text } with
  | .ok program _ => .ok program
  | .error fault u => .error (fault, u.line)

end RemoteAttach.Tool.Awk
