import RemoteAttach.Shell.Tokens

/-! Reading the conditions that the larger shell has between double brackets, and the words in which
it refuses them. -/

namespace RemoteAttach.Shell.Reading

/-- The operators of a condition that look at one word. -/
def unaryTests : List String :=
  ["-a", "-b", "-c", "-d", "-e", "-f", "-g", "-h", "-k", "-n", "-o", "-p", "-r", "-s", "-t", "-u",
    "-v", "-w", "-x", "-z", "-G", "-L", "-N", "-O", "-R", "-S"]

/-- The operators of a condition that compare two words, besides those that are no words. -/
def binaryTests : List String :=
  ["=", "==", "!=", "=~", "-eq", "-ne", "-lt", "-le", "-gt", "-ge", "-nt", "-ot", "-ef"]

/-- The token is a word that is written like this. -/
def Token.isPlain (text : String) : Token → Bool
  | .word word => word.plain? = some text
  | _ => false

/-- A token in the words of a refusal, unless it is a word of its own. -/
def Token.told? : Token → Option String
  | .newline => some "newline"
  | .ending => some "EOF"
  | .op text | .redirect none text | .keyword text => some text
  | .redirect (some _) _ => none
  | t => if Token.isPlain "]]" t then some "]]" else none

/-- Reads the next token of a condition after any line ends. -/
def nextTest (deeper : Deeper) : Reading Token :=
  token deeper { newlines := true }

/-- The text that is taken for the place of an error at a place in a line. -/
def nearText (line : List Char) (place : Nat) : String :=
  let isSpace := fun c => c = ' ' || c = '\t' || c = '\n'
  let before := ((line.take (place + 1)).reverse.dropWhile isSpace).reverse
  let isMark := fun c => isSpace c || c = ';' || c = '|' || c = '&'
  match before.reverse with
  | [] => ""
  | last :: rest =>
    if isMark last then last.toString
    else String.ofList ((last :: rest.takeWhile fun c => !isMark c).reverse)

/-- Refuses a condition, and tells the place that has been reached. -/
def refuseTest {α : Type} (words : List (Nat × String)) : Reading α := do
  let src ← get
  let whole := src.tokenLine.takeWhile (· ≠ '\n')
  let place := min (src.tokenLine.length - src.rest.length) whole.length
  let last := if src.rest.isEmpty && src.tokenStart.isEmpty then
      [(src.line, "syntax error: unexpected end of file")]
    else
      [(src.tokenNumber, "syntax error near `" ++ nearText whole place ++ "'"),
        (src.tokenNumber, "`" ++ String.ofList whole ++ "'")]
  fun _ => .error ⟨words ++ last, true⟩

/-- Refuses a token of a condition. The words are given for a token that can be told, and for
another one. -/
def refuseTestToken {α : Type} (t : Token) (words : String → String) (usual : String) :
    Reading α := do
  refuseTest [((← get).tokenNumber, ((Token.told? t).map words).getD usual)]

/-- Reads the word on the right of an operator of a condition. -/
def testOperand (deeper : Deeper) (op : String) : Reading Word := do
  let grouped := (← get).grouped
  let wrong := fun (t : Token) => (refuseTestToken t
    (fun text => "unexpected argument `" ++ text ++ "' to conditional binary operator")
    "unexpected argument to conditional binary operator" : Reading Word)
  if op = "=~" then
    skipBlanks
    let src ← get
    let word ← deeper.parts .expression
    if word.isEmpty || word.plain? = some "]]" then
      set src
      wrong (← token deeper)
    else pure word
  else
    modify fun src => { src with grouped := grouped || ["=", "==", "!="].contains op }
    let t ← token deeper
    modify fun src => { src with grouped }
    match t with
    | .word word => if Token.isPlain "]]" t then wrong t else pure word
    | t => wrong t

/-- Reads a part of a condition that is not joined to another one, and the token after it. -/
def testTerm (deeper : Deeper) (whole : Reading (Test × Token)) : Nat → Reading (Test × Token)
  | 0 => refuse "syntax error: too deep"
  | fuel + 1 => do
    let t ← nextTest deeper
    match t with
    | .op "(" =>
      let (test, t) ← whole
      match t with
      | .op ")" => pure (test, ← nextTest deeper)
      | t =>
        refuseTestToken t (fun text => "unexpected token `" ++ text ++ "', expected `)'")
          "expected `)'"
    | .word word =>
      let text := (word.plain?).getD ""
      if text = "]]" then refuseTest []
      else if text = "!" then
        let (test, t) ← testTerm deeper whole fuel
        pure (.negation test, t)
      else if unaryTests.contains text then
        let t ← token deeper
        let wrong : Reading (Test × Token) := refuseTestToken t
          (fun text => "unexpected argument `" ++ text ++ "' to conditional unary operator")
          "unexpected argument to conditional unary operator"
        match t with
        | .word operand =>
          if Token.isPlain "]]" t then wrong else pure (.unary text operand, ← nextTest deeper)
        | _ => wrong
      else
        let t ← token deeper
        let compared := fun (op : String) => do
          let right ← testOperand deeper op
          pure (Test.binary op word right, ← nextTest deeper)
        let wrong : Reading (Test × Token) := refuseTestToken t
          (fun text => "unexpected token `" ++ text ++ "', conditional binary operator expected")
          "conditional binary operator expected"
        match t with
        | .word mark =>
          let op := (mark.plain?).getD ""
          if op = "]]" then pure (.filled word, t)
          else if binaryTests.contains op then compared op
          else wrong
        | .redirect none "<" => compared "<"
        | .redirect none ">" => compared ">"
        | .op "&&" | .op "||" | .op ")" => pure (.filled word, t)
        | _ => wrong
    | t =>
      refuseTestToken t (fun text => "unexpected token `" ++ text ++ "' in conditional command")
        "unexpected token in conditional command"

/-- Reads parts of a condition that have to hold together, or of which one has to hold, and the
token after them. -/
def testFrom (deeper : Deeper) : Nat → Reading (Test × Token)
  | 0 => refuse "syntax error: too deep"
  | fuel + 1 => do
    let (first, t) ← both fuel
    match t with
    | .op "||" =>
      let (second, t) ← testFrom deeper fuel
      pure (.either first second, t)
    | t => pure (first, t)
where
  /-- Reads parts that have to hold together. -/
  both : Nat → Reading (Test × Token)
    | 0 => refuse "syntax error: too deep"
    | fuel + 1 => do
      let (first, t) ← testTerm deeper (testFrom deeper fuel) fuel
      match t with
      | .op "&&" =>
        let (second, t) ← both fuel
        pure (.both first second, t)
      | t => pure (first, t)

/-- Reads a condition after its opening brackets. -/
def testAfter (deeper : Deeper) (line : Nat) : Reading Command := do
  let (test, t) ← testFrom deeper ((← rest).length + 1)
  if Token.isPlain "]]" t then pure (.test line test)
  else
    match t with
    | .ending => refuseTest [(line, "unexpected EOF while looking for `]]'")]
    | t =>
      let words := "syntax error in conditional expression"
      refuseTest [(line, ((Token.told? t).map fun text =>
        words ++ ": unexpected token `" ++ text ++ "'").getD words)]

end RemoteAttach.Shell.Reading
