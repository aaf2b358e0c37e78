import RemoteAttach.Shell.Script

/-! Commands in the form in which the larger shell shows them: one statement a line in the body of a
function, and blanks between statements elsewhere. -/

namespace RemoteAttach.Shell

/-- A redirection as it is shown. The text that it may bring along stands below the line. -/
structure ShownRedirect where
  text : String
  body : Option String := none

/-- A command whose words are texts. -/
inductive Layout where
  | nothing
  | words (words : List String)
  | redirected (command : Layout) (redirects : List ShownRedirect)
  /-- A command with a mark before it. -/
  | marked (mark : String) (command : Layout)
  /-- Two commands with a mark between them. -/
  | joined (first : Layout) (mark : String) (second : Layout)
  | subshell (body : Layout)
  | group (body : Layout)
  | branch (condition yes no : Layout)
  /-- A loop with a condition, which begins with the given word. -/
  | loop (word : String) (condition body : Layout)
  /-- A loop over words. -/
  | each (head : String) (body : Layout)
  /-- A loop with a start, a condition and a step, which its head shows. -/
  | counted (head : String) (body : Layout)
  | choice (head : String) (cases : Layout)
  /-- A case of a choice, and the cases after it. -/
  | case (patterns : String) (body : Layout) (ending : String) (rest : Layout)
  /-- A function with the redirections of its body. -/
  | function (name : String) (body : Layout) (redirects : List ShownRedirect)

/-- What has been shown, and how to go on. -/
structure Pen where
  /-- The text, from its end on. -/
  text : List Char := []
  indentation : Nat := 0
  /-- How much further to the right lines stand inside a command. -/
  step : Nat := 4
  /-- The number of commands that begin where the text ends. -/
  follows : Nat := 0
  /-- The number of functions around the command. -/
  functions : Nat := 0
  /-- The number of commands around it that are joined. -/
  joins : Nat := 0
  /-- The texts that redirections bring along and that have not been shown. -/
  bodies : List String := []
  /-- Such a text has been shown last. -/
  hadBody : Bool := false
  /-- The command stands in the place of its output. -/
  isCaptured : Bool := false

namespace Pen

/-- Shows a text. -/
def put (text : String) : StateM Pen Unit :=
  modify fun p => { p with text := text.toList.reverse ++ p.text }

/-- Shows blanks up to the place where lines begin. -/
def indent : StateM Pen Unit := do
  put (String.ofList (List.replicate (← get).indentation ' '))

/-- Begins a line with a text. -/
def newline (text : String) : StateM Pen Unit := do
  put "\n"
  indent
  put text

/-- Shows a semicolon where one is needed. -/
def semicolon : StateM Pen Unit := do
  match (← get).text with
  | '&' :: _ | '\n' :: _ => pure ()
  | _ => put ";"

/-- Begins a command. -/
def begin : StateM Pen Unit := do
  if (← get).follows = 0 then indent
  else modify fun p => { p with follows := p.follows - 1 }

/-- Lets the next command begin where the text ends. -/
def follow : StateM Pen Unit :=
  modify fun p => { p with follows := p.follows + 1 }

/-- Shows the texts that redirections bring along. -/
def putBodies (bodies : List String) : StateM Pen Unit := do
  put ("\n" ++ String.join (bodies.map (· ++ "\n")))
  modify fun p => { p with hadBody := true }

/-- Shows a mark, and then the texts that have been put off. -/
def putOff (mark : String) : StateM Pen Unit := do
  put mark
  let bodies := (← get).bodies
  if !bodies.isEmpty then
    putBodies bodies
    if !mark.isEmpty then put " "
  modify fun p => { p with bodies := [] }

/-- Shows the texts that have been put off. -/
def settle : StateM Pen Unit := do
  if !(← get).bodies.isEmpty then putOff ""

/-- Shows lines further to the right. -/
def deeper (action : StateM Pen Unit) : StateM Pen Unit := do
  modify fun p => { p with indentation := p.indentation + p.step }
  action
  modify fun p => { p with indentation := p.indentation - p.step }

/-- Shows redirections. -/
def redirects (all : List ShownRedirect) : StateM Pen Unit := do
  modify fun p => { p with hadBody := false }
  put (String.intercalate " " (all.map (·.text)))
  let bodies := all.filterMap (·.body)
  if !bodies.isEmpty then
    if (← get).joins ≠ 0 then modify fun p => { p with bodies }
    else putBodies bodies

/-- Shows what stands between two statements. -/
def separate (mark : String) (hasSecond : Bool) : StateM Pen Unit := do
  match mark with
  | "|" | "&" =>
    putOff (" " ++ mark)
    if mark = "|" || hasSecond then
      put " "
      follow
  | "&&" | "||" =>
    putOff (" " ++ mark ++ " ")
    follow
  | _ =>
    let p ← get
    if p.bodies.isEmpty then
      if p.hadBody then modify fun p => { p with hadBody := false }
      else put (if p.isCaptured then mark else ";")
    else putOff (if p.functions ≠ 0 then "" else ";")
    if p.functions ≠ 0 then put "\n"
    else
      if mark = ";" || !p.isCaptured then put " "
      follow

/-- Shows the body of a function after the brace that opens it. -/
def functionBody (body : StateM Pen Unit) (all : List ShownRedirect) : StateM Pen Unit := do
  modify fun p => { p with functions := p.functions + 1 }
  deeper do
    body
    settle
  modify fun p => { p with functions := p.functions - 1 }
  if all.isEmpty then newline "\x7d"
  else
    newline "\x7d "
    redirects all

end Pen

namespace Layout

open Pen

/-- There is a command. -/
def isSome : Layout → Bool
  | nothing => false
  | _ => true

/-- Shows a command. -/
def write : Layout → StateM Pen Unit
  | nothing => pure ()
  | words all => do
    begin
    put (String.intercalate " " all)
  | redirected command all => do
    match command with
    | .words [] => begin
    | _ =>
      write command
      put " "
    redirects all
  | marked mark command => do
    begin
    put mark
    follow
    write command
  | joined first mark second => do
    begin
    follow
    modify fun p => { p with joins := p.joins + 1 }
    write first
    separate mark second.isSome
    write second
    settle
    modify fun p => { p with joins := p.joins - 1 }
  | subshell body => do
    begin
    put "( "
    follow
    write body
    settle
    put " )"
  | group body => do
    begin
    put "\x7b "
    if (← get).functions = 0 then
      follow
      write body
      settle
      semicolon
      put " "
    else
      put "\n"
      deeper do
        write body
        settle
      put "\n"
      indent
    put "\x7d"
  | branch condition yes no => do
    begin
    put "if "
    follow
    write condition
    semicolon
    put " then\n"
    deeper do
      write yes
      settle
    if no.isSome then
      semicolon
      newline "else\n"
      deeper do
        write no
        settle
    semicolon
    newline "fi"
  | loop word condition body => do
    begin
    put (word ++ " ")
    follow
    write condition
    settle
    semicolon
    put " do\n"
    deeper do
      write body
      settle
    semicolon
    newline "done"
  | each head body => do
    begin
    put (head ++ ";")
    newline "do\n"
    deeper do
      write body
      settle
      semicolon
    newline "done"
  | counted head body => do
    begin
    put head
    newline "do\n"
    deeper do
      write body
      settle
      semicolon
    newline "done"
  | choice head cases => do
    begin
    put head
    deeper (write cases)
    newline "esac"
  | case patterns body ending rest => do
    newline ""
    put (patterns ++ ")\n")
    deeper (write body)
    settle
    newline ending
    write rest
  | function name body all => do
    begin
    put ("function " ++ name ++ " () \n")
    indent
    put "\x7b \n"
    functionBody (write body) all

/-- The text of a command in the place of its output. -/
def captured (command : Layout) : String :=
  String.ofList (((write command).run { isCaptured := true }).2.text.reverse)

/-- The text that declares a function. -/
def declared (name : String) (isReserved : Bool) (body : Layout) (all : List ShownRedirect) :
    String :=
  let act : StateM Pen Unit := do
    put ((if isReserved then "function " else "") ++ name ++ " () \n\x7b \n")
    functionBody (write body) all
  String.ofList ((act.run {}).2.text.reverse)

/-- The text of a function in the environment of a program. -/
def exported (body : Layout) (all : List ShownRedirect) : String :=
  let act : StateM Pen Unit := do
    put "() \x7b "
    let inner : StateM Pen Unit := do
      modify fun p => { p with indentation := 1 }
      write body
      settle
      modify fun p => { p with indentation := 0 }
    functionBody inner all
  String.ofList ((act.run { step := 0 }).2.text.reverse)

end Layout

end RemoteAttach.Shell
