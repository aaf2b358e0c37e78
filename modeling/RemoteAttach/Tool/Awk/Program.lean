import RemoteAttach.Text.Regex

/-! Programs of the pattern language: rules, of which each has a pattern and an action, and
functions. -/

namespace RemoteAttach.Tool.Awk

/-- An operation on two numbers. -/
inductive Arithmetic where
  | add
  | sub
  | mul
  | div
  | rem
  | pow
  deriving DecidableEq

/-- How two values are compared. -/
inductive Comparison where
  | less
  | lessOrEqual
  | equal
  | notEqual
  | greater
  | greaterOrEqual
  deriving DecidableEq

/-- Where a line is read from. -/
inductive Origin where
  | input
  | file
  | command
  deriving DecidableEq

/-- An expression. -/
inductive Expr where
  | number (x : Float)
  | text (s : List Char)
  /-- A regular expression, which is searched for in the record. -/
  | regex (r : Regex)
  | var (name : String)
  | field (index : Expr)
  | item (table : String) (keys : List Expr)
  | assign (operation : Option Arithmetic) (target value : Expr)
  /-- A step up or down of a variable, whose value is that after it or before it. -/
  | step (up : Bool) (after : Bool) (target : Expr)
  | arithmetic (operation : Arithmetic) (a b : Expr)
  | negate (e : Expr)
  | plus (e : Expr)
  | not (e : Expr)
  | compare (comparison : Comparison) (a b : Expr)
  | fits (negated : Bool) (e pattern : Expr)
  | concat (a b : Expr)
  | and (a b : Expr)
  | or (a b : Expr)
  | choose (condition yes no : Expr)
  | member (keys : List Expr) (table : String)
  | call (function : String) (args : List Expr)
  | builtin (name : String) (args : List Expr)
  | getline (origin : Origin) (source : Option Expr) (target : Option Expr)
  /-- An expression in parentheses. -/
  | group (e : Expr)
  /-- Several expressions in parentheses. -/
  | tuple (es : List Expr)

/-- Where output goes. -/
inductive Aim where
  | output
  | file (name : Expr)
  | append (name : Expr)
  | command (text : Expr)

/-- A statement. -/
inductive Statement where
  | block (body : List Statement)
  | expr (e : Expr)
  | print (args : List Expr) (aim : Aim)
  | printf (args : List Expr) (aim : Aim)
  | branch (condition : Expr) (yes : Statement) (no : Option Statement)
  | whileLoop (condition : Expr) (body : Statement)
  | doLoop (body : Statement) (condition : Expr)
  | forLoop (start : Option Expr) (condition : Option Expr) (next : Option Expr)
      (body : Statement)
  | forKeys (name : Expr) (table : String) (body : Statement)
  | breakLoop
  | continueLoop
  | nextRecord
  | nextFile
  | exit (status : Option Expr)
  | giveBack (value : Option Expr)
  | delete (table : String) (keys : List Expr)
  | deleteAll (table : String)

/-- When an action is taken. -/
inductive Pattern where
  | atStart
  | atEnd
  | always
  | holds (e : Expr)
  | range (first last : Expr)

/-- A rule; without an action the record is printed. -/
structure Rule where
  pattern : Pattern
  action : Option (List Statement)

/-- A function of the program. -/
structure Function where
  name : String
  params : List String
  body : List Statement

/-- A program. -/
structure Program where
  rules : List Rule := []
  functions : List Function := []

end RemoteAttach.Tool.Awk
