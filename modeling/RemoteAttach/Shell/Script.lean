/-! Shell scripts as data: words with their quoted and expanded parts, redirections, commands and
the statements that join them. The two shells of the system read mostly the same language; what
only the larger one reads is marked by the constructors that only it makes. -/

namespace RemoteAttach.Shell

/-- A shell of the system. -/
inductive Dialect where
  | dash
  | bash
  deriving DecidableEq, Repr

/-- How a file is opened that is to be written. -/
inductive WriteMode where
  /-- What it holds is dropped. -/
  | fresh
  /-- What it holds is dropped, also where the shell is to spare files. -/
  | forced
  | append
  /-- It can also be read. -/
  | shared
  deriving DecidableEq, Repr

/-- What is done to the case of letters. -/
inductive CaseChange where
  | raise
  | lower
  | turn
  deriving DecidableEq, Repr

/-- What is replaced in a value. -/
inductive ReplacePlace where
  | first
  | everywhere
  | start
  | finish
  deriving DecidableEq, Repr

mutual

/-- A part of a word. -/
inductive Part where
  | literal (text : List Char) (quoted : Bool)
  /-- The value of a variable or parameter, changed in some way. -/
  | parameter (target : Target) (change : Change) (quoted : Bool)
  /-- The output of a script, and the line where that begins. -/
  | output (line : Nat) (script : List Statement) (quoted : Bool)
  /-- The value of an arithmetic expression. -/
  | value (expression : List Part) (quoted : Bool)
  /-- The path of a channel from or to a script. -/
  | channel (reads : Bool) (script : List Statement)
  /-- The items of a list, each with its key if one is given. -/
  | items (items : List (Option (List Part) × List Part))

/-- What a parameter part looks at. -/
inductive Target where
  | named (name : String)
  | element (name : String) (key : List Part)
  /-- The parameter whose name is the value of this one. -/
  | pointed (name : String)
  /-- The keys of a list. -/
  | keys (name : String) (joined : Bool)
  /-- The names of variables that begin like this. -/
  | names (start : String) (joined : Bool)

/-- What is made of the value of a parameter. -/
inductive Change where
  | keep
  | length
  /-- The shell does not know the change. -/
  | bad (text : String)
  /-- What the name of the parameter is, a word, lacks the parenthesis that closes a comment in it.
  -/
  | unclosed
  /-- The word, if the parameter is unset or, with `orEmpty`, empty. -/
  | useUnless (orEmpty : Bool) (word : List Part)
  /-- As `useUnless`, and the parameter is set to the word. -/
  | assignUnless (orEmpty : Bool) (word : List Part)
  /-- The script ends with the word as its complaint, if the parameter is unset or, with `orEmpty`,
  empty. -/
  | requireUnless (orEmpty : Bool) (word : List Part)
  /-- The word, if the parameter is set and, with `orEmpty`, not empty. -/
  | useIf (orEmpty : Bool) (word : List Part)
  /-- The value without what matches a pattern at its start. -/
  | dropStart (longest : Bool) (pattern : List Part)
  /-- The value without what matches a pattern at its end. -/
  | dropEnd (longest : Bool) (pattern : List Part)
  /-- The value with what matches a pattern replaced. -/
  | replace (place : ReplacePlace) (pattern word : List Part)
  /-- The value from a place on, and up to a length if there is one. -/
  | slice (start : List Part) (length : Option (List Part))
  /-- The value with the case of its letters changed where they match a pattern. -/
  | recase (change : CaseChange) (everywhere : Bool) (pattern : List Part)
  /-- The value in another form, which a letter names. -/
  | form (letter : Char)

/-- A change of where a command reads or writes; each names the stream that it changes. -/
inductive Redirect where
  | read (stream : Nat) (target : List Part)
  | write (stream : Nat) (mode : WriteMode) (target : List Part)
  | copy (stream : Nat) (target : List Part)
  | text (stream : Nat) (body : List Part)
  /-- A change of a new stream, whose number the variable then holds, or the end of the stream that
  it holds. -/
  | named (name : String) (change : Redirect)
  /-- Both the output and the error output go to the target. -/
  | writeBoth (append : Bool) (target : List Part)

/-- An assignment. -/
inductive Setting where
  | text (name : String) (key : Option (List Part)) (append : Bool) (value : List Part)
  /-- Sets a list, whose items stand at the start of a text. -/
  | list (name : String) (append : Bool) (written : List Char)
      (items : List (Option (List Part) × List Part))

/-- A condition of the larger shell. -/
inductive Test where
  | filled (word : List Part)
  | unary (op : String) (word : List Part)
  | binary (op : String) (left right : List Part)
  | negation (test : Test)
  | both (first second : Test)
  | either (first second : Test)

/-- A command. -/
inductive Command where
  /-- Assignments, a program with its arguments, and redirections, with the line they stand on and
  the text from there on. -/
  | simple (line : Nat) (settings : List Setting) (words : List (List Part))
      (redirects : List Redirect) (written : List Char)
  | group (body : List Statement)
  | subshell (line : Nat) (body : List Statement)
  | branch (condition yes no : List Statement)
  /-- A loop that goes on while its condition has the given outcome. -/
  | loop (outcome : Bool) (condition body : List Statement)
  /-- A loop over words, or over the arguments if there are none, with the text from its name
  on. -/
  | each (line : Nat) (name : String) (words : Option (List (List Part))) (body : List Statement)
      (written : List Char)
  /-- A loop over the words that are picked from a menu. -/
  | pick (line : Nat) (name : String) (words : Option (List (List Part))) (body : List Statement)
      (written : List Char)
  /-- A loop with a start, a condition and a step. -/
  | count (line : Nat) (start condition step : List Part) (body : List Statement)
  /-- A choice by patterns, with the text from its word on. A case may fall through to the next
  one, or go on looking. -/
  | choice (line : Nat) (word : List Part)
      (cases : List (List (List Part) × List Statement × CaseEnd)) (written : List Char)
  /-- A function, with the text from its body on. -/
  | function (line : Nat) (name : String) (body : Command) (written : List Char)
  /-- An arithmetic expression as a condition. -/
  | compute (line : Nat) (expression : List Part)
  | test (line : Nat) (test : Test)
  | redirected (line : Nat) (command : Command) (redirects : List Redirect)

/-- What happens after a case. -/
inductive CaseEnd where
  | done
  | next
  | look

/-- A statement: commands joined by pipes, or two statements of which the second depends on the
outcome of the first. -/
inductive Statement where
  | pipeline (negated : Bool) (commands : List Command)
  | both (first second : Statement)
  | either (first second : Statement)
  | background (statement : Statement)
  /-- A statement of which the time is told that it takes, in a plain form or as the shell is asked
  to. -/
  | timed (plain : Bool) (statement : Statement)

end

/-- A word of a script. -/
abbrev Word := List Part

/-- The text of a word that is not quoted and expands to itself. -/
def Word.plain? : Word → Option String
  | [.literal text false] => some (String.ofList text)
  | _ => none

/-- A character that may begin the name of a variable. -/
def isNameStart (c : Char) : Bool :=
  c.isAlpha || c = '_'

/-- A character of the name of a variable. -/
def isNameChar (c : Char) : Bool :=
  isNameStart c || c.isDigit

/-- A text can be the name of a variable. -/
def isName (text : String) : Bool :=
  match text.toList with
  | c :: rest => isNameStart c && rest.all isNameChar
  | [] => false

end RemoteAttach.Shell
