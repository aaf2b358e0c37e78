/-! Blank characters, and the cuts of a text that depend on them or on line ends: trimming, words
and lines. A blank is a character with the Unicode property White_Space. Texts are lists of
characters here, so that each cut is a structural recursion. -/

namespace RemoteAttach.Text

/-- A character is blank if it has the Unicode property White_Space. -/
def isBlank (c : Char) : Bool :=
  let n := c.toNat
  (0x09 ≤ n && n ≤ 0x0D) || n == 0x20 || n == 0x85 || n == 0xA0 || n == 0x1680 ||
    (0x2000 ≤ n && n ≤ 0x200A) || n == 0x2028 || n == 0x2029 || n == 0x202F || n == 0x205F ||
    n == 0x3000

/-- The text without its leading blanks. -/
def trimStart (text : List Char) : List Char :=
  text.dropWhile isBlank

/-- The text without its trailing blanks. -/
def trimEnd (text : List Char) : List Char :=
  (text.reverse.dropWhile isBlank).reverse

/-- The text without the blanks at its two ends. -/
def trim (text : List Char) : List Char :=
  trimEnd (trimStart text)

/-- A text trimmed at both ends. -/
def trimmed (text : String) : String :=
  String.ofList (trim text.toList)

/-- The words of a text after the characters of `word`, which are held last first. -/
def wordsAfter (word : List Char) : List Char → List (List Char)
  | [] => if word.isEmpty then [] else [word.reverse]
  | c :: rest =>
    if isBlank c then
      if word.isEmpty then wordsAfter [] rest else word.reverse :: wordsAfter [] rest
    else wordsAfter (c :: word) rest

/-- The longest runs of characters that are not blank, in order. -/
def words (text : List Char) : List (List Char) :=
  wordsAfter [] text

/-- A line without the carriage return that may end it; the line is held last character first. -/
def dropReturn : List Char → List Char
  | '\r' :: line => line
  | line => line

/-- The lines of a text after the characters of `line`, which are held last first. -/
def linesAfter (line : List Char) : List Char → List (List Char)
  | [] => if line.isEmpty then [] else [line.reverse]
  | c :: rest =>
    if c = '\n' then (dropReturn line).reverse :: linesAfter [] rest
    else linesAfter (c :: line) rest

/-- The lines of a text. A newline ends a line, together with a carriage return right before it;
the last line may lack its newline, and then keeps a carriage return. -/
def lines (text : List Char) : List (List Char) :=
  linesAfter [] text

end RemoteAttach.Text
