import RemoteAttach.Decimal.Places

/-! Tokens of the pattern language. A slash is a sign here; where an expression may begin it opens a
regular expression instead, which is for the reader to tell. -/

namespace RemoteAttach.Tool.Awk

/-- A token. -/
inductive Token where
  | number (x : Float) (shown : String)
  | text (s : List Char)
  | name (s : String)
  /-- A name with an opening parenthesis right after it. -/
  | called (s : String)
  | builtin (s : String)
  | keyword (s : String)
  | sign (s : String)
  | newline
  | stop

/-- Why a program cannot be read. -/
inductive Fault where
  | unexpected (token : String)
  | missing (mark : Char) (place : String)
  | extra (mark : Char)
  | openText (start : String)
  | openRegex (start : String)
  | regex (reason : String) (text : String)
  | character (c : Char)
  | argumentCount (name : String)
  | printfArguments
  | outside (words : String)
  | tooLong

/-- The names of the functions that the language has. -/
def builtinNames : List String :=
  ["atan2", "close", "cos", "exp", "fflush", "gsub", "index", "int", "length", "log", "match",
    "mktime", "rand", "sin", "split", "sprintf", "sqrt", "srand", "strftime", "sub", "substr",
    "system", "systime", "tolower", "toupper"]

/-- The words with a meaning of their own. -/
def keywords : List String :=
  ["BEGIN", "END", "break", "continue", "delete", "do", "else", "exit", "for", "function",
    "getline", "if", "in", "next", "nextfile", "print", "printf", "return", "while"]

/-- The signs, the longer ones first. -/
def signs : List String :=
  ["&&", "||", "==", "!=", "<=", ">=", ">>", "++", "--", "+=", "-=", "*=", "/=", "%=", "^=", "!~",
    "+", "-", "*", "/", "%", "^", "!", "~", "<", ">", "|", "?", ":", ",", ";", "(", ")", "[", "]",
    "\x7b", "\x7d", "$", "="]

/-- A character of a name. -/
def isNameChar (c : Char) : Bool :=
  c.isAlphanum || c = '_'

namespace Token

/-- The token as it is shown in complaints. -/
def shown : Token → String
  | number _ shown => shown
  | text s => String.ofList s
  | name s | called s | builtin s | keyword s | sign s => s
  | newline => "end of line"
  | stop => "end of line"

/-- The character for a letter after a backslash in a text, and the number of characters. -/
def escaped? : List Char → Option (Char × Nat)
  | '"' :: _ => some ('"', 1)
  | '\\' :: _ => some ('\\', 1)
  | 'a' :: _ => some ('\x07', 1)
  | 'b' :: _ => some ('\x08', 1)
  | 'f' :: _ => some ('\x0c', 1)
  | 'n' :: _ => some ('\n', 1)
  | 'r' :: _ => some ('\r', 1)
  | 't' :: _ => some ('\t', 1)
  | 'v' :: _ => some ('\x0b', 1)
  | 'x' :: rest =>
    let digits := (rest.take 2).takeWhile fun c => (Text.digit? 16 c).isSome
    if digits.isEmpty then none
    else (Text.digitsAfter 16 0 digits).map fun n => (Char.ofNat n, digits.length + 1)
  | rest =>
    let digits := (rest.take 3).takeWhile fun c => (Text.digit? 8 c).isSome
    if digits.isEmpty then none
    else (Text.digitsAfter 8 0 digits).map fun n => (Char.ofNat (n % 256), digits.length)

/-- A text in which the sequences after backslashes have been replaced. -/
def unescaped : Nat → List Char → List Char
  | skip + 1, _ :: rest => unescaped skip rest
  | _, [] => []
  | 0, '\\' :: rest =>
    match escaped? rest with
    | some (c, count) => c :: unescaped count rest
    | none => '\\' :: unescaped 0 rest
  | 0, c :: rest => c :: unescaped 0 rest

/-- The text before a quote that no backslash protects, and what follows the quote. A line end
that a backslash protects is left out. -/
def quotedFrom (done : List Char) : List Char → Option (List Char × List Char)
  | '"' :: rest => some (done.reverse, rest)
  | '\\' :: '\n' :: rest => quotedFrom done rest
  | '\\' :: c :: rest => quotedFrom (c :: '\\' :: done) rest
  | '\n' :: _ | [] => none
  | c :: rest => quotedFrom (c :: done) rest

/-- The text without blanks and comments at its start. -/
def skipBlanks : Nat → List Char → List Char
  | 0, chars => chars
  | fuel + 1, chars =>
    match chars with
    | ' ' :: rest | '\t' :: rest | '\r' :: rest => skipBlanks fuel rest
    | '\\' :: '\n' :: rest => skipBlanks fuel rest
    | '\\' :: '\r' :: '\n' :: rest => skipBlanks fuel rest
    | '#' :: rest => skipBlanks fuel (rest.dropWhile (· ≠ '\n'))
    | other => other

/-- The first token of a text, and what follows it. -/
def read (chars : List Char) : Except Fault (Token × List Char) :=
  let chars := skipBlanks (chars.length + 1) chars
  match chars with
  | [] => .ok (stop, [])
  | '\n' :: rest => .ok (newline, rest)
  | '"' :: rest =>
    match quotedFrom [] rest with
    | some (s, rest) => .ok (.text (unescaped 0 s), rest)
    | none =>
      let start := (rest.takeWhile (· ≠ '\n')).take 10
      .error (.openText ("\"" ++ String.ofList start))
  | c :: rest =>
    if c.isDigit || (c = '.' && rest.head?.any Char.isDigit) then
      let whole := chars.takeWhile Char.isDigit
      let after := chars.drop whole.length
      let fraction := match after with
        | '.' :: more => '.' :: more.takeWhile Char.isDigit
        | _ => []
      let (_, power) := Decimal.Quantity.exponent ['e', 'E'] (after.drop fraction.length)
      let size := whole.length + fraction.length + power
      let digits := chars.take size
      .ok (number (Decimal.Quantity.readUnsigned false digits).1.toFloat (String.ofList digits),
        chars.drop size)
    else if isNameChar c then
      let word := chars.takeWhile isNameChar
      let after := chars.drop word.length
      let s := String.ofList word
      if keywords.contains s then .ok (keyword s, after)
      else if s = "func" then .ok (keyword "function", after)
      else if builtinNames.contains s then .ok (builtin s, after)
      else if after.head? = some '(' then .ok (called s, after)
      else .ok (name s, after)
    else
      match signs.find? fun s => s.toList.isPrefixOf chars with
      | some s => .ok (sign s, chars.drop s.length)
      | none => .error (.character c)

end Token

end RemoteAttach.Tool.Awk
