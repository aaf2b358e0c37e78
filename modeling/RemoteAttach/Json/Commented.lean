import RemoteAttach.Text.Blank

/-! Plain JSON from JSON with comments. One pass drops line comments up to the newline that ends
them, block comments, and each comma that only blanks and comments divide from a closing bracket.
Comments leave nothing behind, and string literals are kept as they are. -/

namespace RemoteAttach.Json.Commented

open RemoteAttach.Text

/-- Where the pass stands in the text. -/
inductive Mode where
  /-- Outside strings and comments. -/
  | plain
  /-- After a solidus that may open a comment and is not kept yet. -/
  | solidus
  /-- Inside a string literal. -/
  | literal
  /-- After a backslash inside a string literal. -/
  | escape
  /-- Inside a line comment. -/
  | line
  /-- Inside a block comment. -/
  | block
  /-- After a star inside a block comment. -/
  | star
  deriving DecidableEq, Repr

/-- The state of the pass: its mode, the characters kept so far, last first, and the place in them
of a comma that a closing bracket would still drop. -/
structure Pass where
  mode : Mode := .plain
  kept : List Char := []
  comma : Option Nat := none
  deriving DecidableEq, Repr

namespace Pass

/-- Keeps a character that leaves an open comma open. -/
def keep (c : Char) (p : Pass) : Pass :=
  { p with kept := c :: p.kept, comma := p.comma.map (· + 1) }

/-- Keeps a character that closes the open comma's chance to be dropped. -/
def settle (c : Char) (p : Pass) : Pass :=
  { p with kept := c :: p.kept, comma := none }

/-- Keeps a comma and opens it. -/
def keepComma (p : Pass) : Pass :=
  { p with kept := ',' :: p.kept, comma := some 0 }

/-- Drops the open comma, if there is one, and keeps a closing bracket. -/
def close (c : Char) (p : Pass) : Pass :=
  match p.comma with
  | some place => { p with kept := c :: p.kept.eraseIdx place, comma := none }
  | none => { p with kept := c :: p.kept }

/-- Takes a character outside strings and comments. -/
def plainStep (p : Pass) (c : Char) : Pass :=
  if c = '"' then { p.settle c with mode := .literal }
  else if c = '/' then { p with mode := .solidus }
  else if c = ',' then { p.keepComma with mode := .plain }
  else if c = ']' || c = '}' then { p.close c with mode := .plain }
  else if isBlank c then { p.keep c with mode := .plain }
  else { p.settle c with mode := .plain }

/-- Takes the next character of the text. -/
def step (p : Pass) (c : Char) : Pass :=
  match p.mode with
  | .plain => p.plainStep c
  | .solidus =>
    if c = '/' then { p with mode := .line }
    else if c = '*' then { p with mode := .block }
    else (p.settle '/').plainStep c
  | .literal =>
    if c = '"' then { p.keep c with mode := .plain }
    else if c = '\\' then { p.keep c with mode := .escape }
    else p.keep c
  | .escape => { p.keep c with mode := .literal }
  | .line => if c = '\n' then { p.keep c with mode := .plain } else p
  | .block => if c = '*' then { p with mode := .star } else p
  | .star =>
    if c = '/' then { p with mode := .plain }
    else if c = '*' then p
    else { p with mode := .block }

/-- The characters kept by the end of the text, in order; a last solidus opens no comment. -/
def finish (p : Pass) : List Char :=
  if p.mode = .solidus then (p.settle '/').kept.reverse else p.kept.reverse

end Pass

/-- The text without its comments and dropped commas. -/
def plainText (text : List Char) : List Char :=
  (text.foldl Pass.step {}).finish

/-- Plain JSON text from a text of JSON with comments. -/
def strip (text : String) : String :=
  String.ofList (plainText text.toList)

end RemoteAttach.Json.Commented
