import RemoteAttach.Text.Regex.Reader

/-! Scripts of the stream editor: commands, each with the lines that it is meant for. -/

namespace RemoteAttach.Tool.Sed

/-- A line of the input, or several of them. -/
inductive Address where
  | line (number : Nat)
  /-- The first line and every so many lines after it. -/
  | step (first size : Nat)
  | last
  /-- Every line with a match. No expression stands for the last one that was looked for. -/
  | pattern (expression : Option Regex)
  /-- The line so many lines after the start of a range. -/
  | later (count : Nat)
  /-- The next line whose number is a multiple. -/
  | multiple (size : Nat)

/-- The lines that a command is meant for: all of them, those at an address, or those from one
address to another, or all others. -/
structure Lines where
  first : Option Address := none
  second : Option Address := none
  negated : Bool := false

/-- How the letters of a text are changed. -/
inductive Case where
  | kept
  | upper
  | lower
  deriving DecidableEq

/-- A part of a replacement: a text and then perhaps a group of the match. -/
structure Piece where
  text : List Char
  group : Option Nat := none
  case : Case := .kept
  /-- How the first letter is changed, if not like the others. -/
  first : Option Case := none

/-- What replaces matches of an expression. -/
structure Substitution where
  expression : Option Regex
  replacement : List Piece
  /-- The match that is the first one to be replaced. -/
  occurrence : Nat := 1
  everywhere : Bool := false
  /-- The result is printed: before it is run as a command, or afterwards. -/
  printsBefore : Bool := false
  prints : Bool := false
  /-- The result is run as a command. -/
  runs : Bool := false
  file : Option String := none

/-- When a command jumps. -/
inductive Jump where
  | always
  | ifReplaced
  | unlessReplaced
  deriving DecidableEq

/-- What a command does. -/
inductive Verb where
  /-- Skips the commands up to an index if the line is not one of those that are meant. -/
  | block (stop : Nat)
  | jump (kind : Jump) (label : String)
  | append (text : List Char)
  | insert (text : List Char)
  | change (text : List Char)
  | delete
  | deleteLine
  | run (command : List Char)
  | fileName
  | lineNumber
  | get
  | getMore
  | hold
  | holdMore
  | exchange
  | next
  | nextMore
  | print
  | printLine
  | clear
  | show (width : Option Nat)
  | quit (status : Nat)
  | leave (status : Nat)
  | readFile (name : String)
  | readLine (name : String)
  | writeFile (name : String)
  | writeLine (name : String)
  | substitute (s : Substitution)
  | transliterate (table : List (Char × Char))

/-- A command and the lines that it is meant for. -/
structure Command where
  lines : Lines := {}
  verb : Verb

/-- A script. -/
structure Script where
  commands : Array Command := #[]
  /-- The labels, each with the index of the command that follows it. -/
  labels : List (String × Nat) := []
  /-- Its first line asks for no output but what is printed by commands. -/
  quiet : Bool := false

/-- Why a text is no script. -/
inductive Fault where
  | secondNegation
  | comma
  | relativeStart
  | openBrace
  | closeBrace
  | afterCommand
  | noText
  | braceWithAddress
  | labelWithAddress
  | commentWithAddress
  | noCommand
  | secondAddress
  | openAddress
  | openSubstitution
  | openTransliteration
  | unknownFlag
  | printTwice
  | everywhereTwice
  | occurrenceTwice
  | occurrenceZero
  | lengths
  | lineZero
  | unknown (letter : Char)
  | noLabel
  | noFile
  | newer
  | group (index : Nat)
  | emptyWithFlags
  | noExpression
  | forbidden
  | expression (refusal : Regex.Refusal)

/-- The words for a fault. -/
def Fault.message : Fault → String
  | secondNegation => "multiple `!'s"
  | comma => "unexpected `,'"
  | relativeStart => "invalid usage of +N or ~N as first address"
  | openBrace => "unmatched `\x7b'"
  | closeBrace => "unexpected `\x7d'"
  | afterCommand => "extra characters after command"
  | noText => "expected \\ after `a', `c' or `i'"
  | braceWithAddress => "`\x7d' doesn't want any addresses"
  | labelWithAddress => ": doesn't want any addresses"
  | commentWithAddress => "comments don't accept any addresses"
  | noCommand => "missing command"
  | secondAddress => "command only uses one address"
  | openAddress => "unterminated address regex"
  | openSubstitution => "unterminated `s' command"
  | openTransliteration => "unterminated `y' command"
  | unknownFlag => "unknown option to `s'"
  | printTwice => "multiple `p' options to `s' command"
  | everywhereTwice => "multiple `g' options to `s' command"
  | occurrenceTwice => "multiple number options to `s' command"
  | occurrenceZero => "number option to `s' command may not be zero"
  | lengths => "strings for `y' command are different lengths"
  | lineZero => "invalid usage of line address 0"
  | unknown letter => "unknown command: `" ++ letter.toString ++ "'"
  | noLabel => "\":\" lacks a label"
  | noFile => "missing filename in r/R/w/W commands"
  | newer => "expected newer version of sed"
  | group index => "invalid reference \\" ++ toString index ++ " on `s' command's RHS"
  | emptyWithFlags => "cannot specify modifiers on empty regexp"
  | noExpression => "no previous regular expression"
  | forbidden => "e/r/w commands disabled in sandbox mode"
  | expression refusal => refusal.message

end RemoteAttach.Tool.Sed
