import RemoteAttach.Shell.Menu
import RemoteAttach.Shell.Simple
import RemoteAttach.Text.Regex.Reader

/-! Running scripts: statements, pipes, loops and choices, each by way of runners for what lies one
level deeper. A script is read and run a line at a time. -/

namespace RemoteAttach.Shell.Run

open Act

/-- Runs what is to be done when the shell ends, once. -/
def runExitTrap (r : Runner) : Act Unit := do
  let s ← get
  match s.traps.lookup "EXIT" with
  | none => pure ()
  | some text =>
    if s.isSubshell && text.isEmpty then pure ()
    else
      let outcome ← observe do
        let traps := s.traps.filter (·.1 ≠ "EXIT")
        modify fun s => { s with
          traps, loops := 0, builtin := none, line := 1, nesting := s.nesting + 1
          readMark := "exit trap: " }
        r.script (Simple.sourceOf s text 1)
        modify fun after => { after with status := s.status }
      concludeProcess outcome

/-- Ends a process after an action, in whatever way that has left it. -/
def ending (r : Runner) (action : Act Unit) : Act Unit := do
  let outcome ← observe action
  let outcome ← match outcome with
    | .error .endless | .error .late | .error (.killed _) => pure outcome
    | _ => do
      match ← observe (Builtin.meetSignals r) with
      | .error (.killed signal) => pure (.error (.killed signal))
      | _ => pure outcome
  match outcome with
  | .error .endless | .error .late => conclude outcome
  | .error (.killed signal) =>
    if (← get).dialect = .bash && signal ≠ 13 && signal ≠ 9 then runExitTrap r
    throw (.killed signal)
  | outcome =>
    concludeProcess outcome
    runExitTrap r
    Simple.drain r []

/-- Does an action in a process that a shell makes of itself. What is done for signals is forgotten,
but for those that are ignored. -/
def forked (r : Runner) (action : Act Unit) : Act Unit :=
  isolated do
    modify fun s => { s with traps := Simple.keptTraps s }
    ending r action

/-- Moves to the line of a command that is about to run, and does what is to be done then. -/
def arrive (r : Runner) (line : Nat) : Act Unit := do
  modify (·.reach line)
  let _ ← Builtin.runTrap r "DEBUG"

/-- Leaves the shell after a command that has failed, if it is to do so. -/
def checked (r : Runner) (action : Act Unit) : Act Unit := do
  action
  let s ← get
  if s.status ≠ 0 && !s.tested then
    if s.dialect = .bash then
      let _ ← Builtin.runTrap r "ERR"
    if s.on "errexit" then throw .exit

/-- What a script writes to its output. -/
def capture (r : Runner) (script : List Statement) : Act (List Char) := do
  match script, (← get).dialect with
  | [.pipeline false [.simple _ [] [] [.read 0 word] _]], .bash =>
    let text ← Expand.textOf r word
    let s ← get
    match s.openToRead text with
    | .ok (.inl index) =>
      finish 0
      pure ((s.channels[index]?.map (·.rest s.files)).getD [])
    | .ok (.inr channel) =>
      finish 0
      pure (channel.rest s.files)
    | .error e =>
      complain (text ++ ": " ++ e.reason)
      finish 1
      pure []
  | _, _ =>
    captured do
      modify fun s => { s with
        tested := false, nesting := s.nesting + 1
        traps := Simple.keptTraps s
        options := if s.dialect = .bash && !s.on "inherit_errexit" then
          s.options.filter (· ≠ "errexit") else s.options }
      if script.isEmpty then finish 0
      ending r (r.statements script)
      Job.runAll r

/-- Runs a round of a loop, which tells whether it wants to go on. -/
def inRound (round : Act Bool) : Act Bool := do
  modify fun s => { s with loops := s.loops + 1 }
  let outcome ← observe round
  modify fun s => { s with loops := s.loops - 1 }
  match outcome with
  | .error (.fromLoops count) => if count ≤ 1 then pure false else throw (.fromLoops (count - 1))
  | .error (.toNextRound count) =>
    if count ≤ 1 then pure true else throw (.toNextRound (count - 1))
  | outcome => conclude outcome

/-- Runs a loop that goes on while its condition has the given outcome. -/
def loop (r : Runner) (outcome : Bool) (condition body : List Statement) : Act Unit :=
  repeatWhile (fun (last : Nat) => do
    let goesOn ← inRound do
      asCondition (r.statements condition)
      let ended := (← get).status
      if (ended = 0) = outcome then
        r.statements body
        pure true
      else
        finish last
        pure false
    let status := (← get).status
    pure (if goesOn then some status else none)) 0

/-- Runs a loop over some words, or over the arguments. -/
def each (r : Runner) (line : Nat) (name : String) (words : Option (List Word))
    (body : List Statement) (written : List Char) : Act Unit := do
  modify (·.reach line)
  let values ← match words with
    | some words => do
      let fields ← words.mapM (Simple.fieldsOf r)
      pure fields.flatten
    | none => pure (← get).args
  if values.isEmpty then finish 0
  repeatWhile (fun (values : List String) => do
    match values with
    | [] => pure none
    | value :: rest => do
      arrive r line
      Trace.words r fun _ => Layout.eachAt "for" written
      let set ← observe (assign name value)
      match set, (← get).dialect with
      | .error .discard, .bash => pure none
      | outcome, _ =>
        conclude outcome
        let goesOn ← inRound do
          r.statements body
          pure true
        pure (if goesOn then some rest else none)) values

/-- Runs a loop over words that are picked from a menu. -/
def pick (r : Runner) (line : Nat) (name : String) (words : Option (List Word))
    (body : List Statement) (written : List Char) : Act Unit := do
  modify (·.reach line)
  Trace.words r fun _ => Layout.eachAt "select" written
  let values ← match words with
    | some words => do
      let fields ← words.mapM (Simple.fieldsOf r)
      pure fields.flatten
    | none => pure (← get).args
  finish 0
  if !values.isEmpty then
    repeatWhile (fun (shows : Bool) => do
      if shows then emit 2 (Menu.text values)
      let s ← get
      warn ((s.text? "PS3").getD "#? ")
      Builtin.read []
      if (← get).status ≠ 0 then
        print "\n"
        pure none
      else
        let reply := ((← get).text? "REPLY").getD ""
        if reply.isEmpty then pure (some true)
        else
          let picked := match Sum.legal? reply with
            | some n => if 1 ≤ n then (values[n.toNat - 1]?).getD "" else ""
            | none => ""
          finish 0
          assign name picked
          let goesOn ← inRound do
            r.statements body
            pure true
          let empty := ((← get).text? "REPLY").all (·.isEmpty)
          pure (if goesOn then some empty else none)) true

/-- The value of an expression of the larger shell, which counts as a command. -/
def compute (r : Runner) (expression : Word) : Act Int := do
  let text ← Expand.textOf r expression
  Trace.words r fun _ => "(( " ++ text ++ " ))"
  modify fun s => { s with builtin := some "((" }
  let outcome ← observe (arithmetic text)
  modify fun s => { s with builtin := none }
  conclude outcome

/-- Runs a loop with a start, a condition and a step. -/
def count (r : Runner) (line : Nat) (start condition step : Word) (body : List Statement) :
    Act Unit := do
  let value := fun (w : Word) => do
    arrive r line
    compute r w
  let _ ← value start
  finish 0
  repeatWhile (fun (last : Nat) => do
    let wanted ← value condition
    if wanted = 0 then
      finish last
      pure none
    else
      let goesOn ← inRound do
        r.statements body
        pure true
      if goesOn then
        let status := (← get).status
        let _ ← value step
        finish status
        pure (some status)
      else pure none) 0

/-- A pattern accepts a text, or the text in another case if the shell is to overlook that. -/
def accepts (s : State) (pattern : Pattern) (text : List Char) : Bool :=
  pattern.matches? text || (s.on "nocasematch" &&
    (pattern.matches? (text.map Char.toLower) || pattern.matches? (text.map Char.toUpper)))

/-- Runs the case whose pattern stands for a text. After a case that falls through, the next one is
run whatever its patterns are. -/
def cases (r : Runner) (text : List Char) (through : Bool) :
    List (List Word × List Statement × CaseEnd) → Act Unit
  | [] => if through then pure () else finish 0
  | (patterns, body, ending) :: rest => do
    let accepted ← if through then pure true
      else patterns.anyM fun word => do
        let pattern ← Expand.patternOf r (Expand.withHome (← get) word)
        pure (accepts (← get) pattern text)
    if accepted then
      if body.isEmpty then finish 0
      r.statements body
      match ending with
      | .done => pure ()
      | .next => cases r text true rest
      | .look => cases r text false rest
    else cases r text false rest

/-- Runs a choice by patterns. -/
def choice (r : Runner) (line : Nat) (word : Word)
    (all : List (List Word × List Statement × CaseEnd)) (written : List Char) : Act Unit := do
  arrive r line
  Trace.words r fun _ => (Layout.choiceAt written).trimAsciiEnd.toString
  let text ← Expand.textOf r (Expand.withHome (← get) word)
  cases r text.toList false all

/-- The text of a word as an expression, in which quoted characters stand for themselves. -/
def expressionOf (r : Runner) (word : Word) : Act String := do
  let glyphs := Atom.glyphs (← r.expand { fields := false } word)
  pure (String.ofList (glyphs.flatMap fun g =>
    if g.quoted && !g.char.isAlphanum then ['\\', g.char] else [g.char]))

/-- Tells whether a text has a part that an expression accepts, and keeps that part. -/
def matchExpression (r : Runner) (text : String) (word : Word) : Act Bool := do
  let expression ← expressionOf r word
  match Regex.read { extended := true, strict := true } expression.toList with
  | .error _ =>
    finish 2
    throw .failure
  | .ok regex =>
    let all := text.toList.toArray
    match regex.find? all 0 with
    | none =>
      modify fun s => s.put "BASH_REMATCH" { value := some (.items []) }
      pure false
    | some found =>
      let items := (List.range (regex.groupCount + 1)).map fun n =>
        (n, String.ofList (found.group all n))
      modify fun s => s.put "BASH_REMATCH" { value := some (.items items) }
      pure true

/-- The operators that compare numbers. -/
def numeric : List String := ["-eq", "-ne", "-lt", "-le", "-gt", "-ge"]

/-- Decides a condition of the larger shell. -/
def decide (r : Runner) (isInverted : Bool := false) : Test → Act Bool
  | .filled word => do
    let text ← Expand.textOf r (Expand.withHome (← get) word)
    Trace.words r fun _ => start ++ "-n " ++ Trace.operand text ++ " ]]"
    pure (!text.isEmpty)
  | .unary op word => do
    let text ← Expand.textOf r (Expand.withHome (← get) word)
    Trace.words r fun _ => start ++ op ++ " " ++ Trace.operand text ++ " ]]"
    match (Condition.Judge.mk .bash (← get)).decideOne op text with
    | .ok value => pure value
    | .error words => fail words
  | .binary op left right => do
    let text ← Expand.textOf r (Expand.withHome (← get) left)
    let glyphs := Atom.glyphs (← r.expand { fields := false } right)
    let shown := Glyph.text glyphs
    Trace.words r fun _ =>
      let isPattern := ["==", "=", "!="].contains op
      start ++ Trace.operand text ++ " " ++ op ++ " " ++
        Trace.operand (if isPattern then Trace.pattern glyphs else shown) ++ " ]]"
    if op = "=~" then matchExpression r text right
    else if op = "==" || op = "=" || op = "!=" then
      let pattern ← Expand.patternOf r (Expand.withHome (← get) right)
      pure (accepts (← get) pattern text.toList != (op = "!="))
    else if numeric.contains op then
      let a ← arithmetic text
      let b ← arithmetic shown
      match (Condition.Judge.mk .bash (← get)).decideTwo op (toString a) (toString b) with
      | .ok value => pure value
      | .error words => fail words
    else
      match (Condition.Judge.mk .bash (← get)).decideTwo op text shown with
      | .ok value => pure value
      | .error words => fail words
  | .negation test => do pure (!(← decide r true test))
  | .both first second => do
    if ← decide r false first then decide r false second else pure false
  | .either first second => do
    if ← decide r false first then pure true else decide r false second
where
  /-- The start of the line that traces a condition. -/
  start : String := if isInverted then "[[ ! " else "[[ "

/-- Runs a condition of the larger shell as a command. -/
def runTest (r : Runner) (line : Nat) (test : Test) : Act Unit := do
  arrive r line
  modify fun s => { s with builtin := some "[[" }
  let outcome ← observe (decide r false test)
  modify fun s => { s with builtin := none }
  match outcome with
  | .ok value => finish (if value then 0 else 1)
  | .error .failure | .error .discard => finish (if (← get).status = 2 then 2 else 1)
  | .error leave => throw leave

/-- Defines a function, if there is none of its name that has to remain. -/
def define (line : Nat) (name : String) (body : Command) (written : List Char) : Act Unit := do
  let s ← get
  let source := s.origin.or s.file |>.getD "environment"
  match s.functions.lookup name with
  | some { readonly := true, .. } =>
    complain (name ++ ": readonly function")
    finish 1
  | old =>
    let exported := old.any (·.exported)
    set { s with
      functions := putPair name { line, body, source, written, exported } s.functions }
    finish 0

/-- Runs a command. -/
def command (r : Runner) (c : Command) : Act Unit := do
  match c with
  | .simple line settings words redirects _ =>
    checked r (Simple.run r line settings words redirects)
  | .group body => r.statements body
  | .subshell line body =>
    modify (·.reach line)
    checked r (forked r (r.statements body))
  | .branch condition yes no =>
    asCondition (r.statements condition)
    if (← get).status = 0 then r.statements yes
    else if no.isEmpty then finish 0
    else r.statements no
  | .loop outcome condition body => loop r outcome condition body
  | .each line name words body written =>
    if isName name then each r line name words body written
    else
      modify (·.reach line)
      complain ("`" ++ name ++ "': not a valid identifier")
      finish 1
  | .pick line name words body written => pick r line name words body written
  | .count line start condition step body => count r line start condition step body
  | .choice line word all written => choice r line word all written
  | .function line name body written => define line name body written
  | .compute line expression =>
    checked r do
      arrive r line
      let outcome ← observe (compute r expression)
      match outcome with
      | .ok value => finish (if value = 0 then 1 else 0)
      | .error .discard => finish 1
      | .error leave => throw leave
  | .test line test => checked r (runTest r line test)
  | .redirected line inner redirects =>
    if line ≠ 0 then modify (·.reach line)
    Redirection.during r redirects (r.command inner) (checked r (pure ()))

/-- Runs the last command of a pipeline in the shell itself, which reads a text. -/
def lastStage (r : Runner) (text : List Char) (last : Command) : Act Unit := do
  let streams := (← get).streams
  modify fun s => s.openStream 0 (.source text false)
  let outcome ← observe (r.command last)
  modify fun s => { s with streams }
  conclude outcome

/-- Runs the commands of a pipeline, of which the first one reads `input` if it is given, and gives
their outcomes. -/
def stages (r : Runner) (input : Option (List Char)) : List Command → Act (List Nat)
  | [] => pure []
  | first :: rest => do
    let index := (← get).channels.size
    let before := (← get).status
    match first with
    | .simple line .. => if (← get).dialect = .bash then arrive r line
    | _ => pure ()
    let run : Act Unit := do
      modify fun s => { s with traps := Simple.keptTraps s }
      if !rest.isEmpty then
        modify fun s => s.openStream 1 (.buffer [] (some pipeRoom))
      match input with
      | some text => modify fun s => s.openStream 0 (.source text false)
      | none => pure ()
      ending r (r.command first)
      if !rest.isEmpty then Job.runAll r
    let s ← get
    match input with
    | some text =>
      if rest.isEmpty && s.on "lastpipe" then lastStage r text first else isolated run rest.isEmpty
    | none => isolated run rest.isEmpty
    let s ← get
    let status := s.status
    if rest.isEmpty then pure [status]
    else
      let text := (s.channels[index]?.map Channel.written).getD []
      finish before
      pure (status :: (← stages r (some text) rest))

/-- Runs commands joined by pipes. -/
def pipeline (r : Runner) (commands : List Command) : Act Unit := do
  let outcomes ← stages r none commands
  let s ← get
  let last := outcomes.getLastD 0
  let status := if s.on "pipefail" then (outcomes.filter (· ≠ 0)).getLastD 0 else last
  finish status
  if s.dialect = .bash then
    let items := outcomes.zipIdx.map fun (status, n) => (n, toString status)
    modify fun s => s.put "PIPESTATUS" { value := some (.items items) }

/-- The text that tells a time in milliseconds: seconds with some places, or minutes and seconds. -/
def timeText (places : Nat) (isLong : Bool) (time : Nat) : String :=
  let fraction := (toString (1000 + time % 1000)).drop 1 |>.take places |>.toString
  let tail := if places = 0 then "" else "." ++ fraction
  let seconds := time / 1000
  if isLong then toString (seconds / 60) ++ "m" ++ toString (seconds % 60) ++ tail ++ "s"
  else toString seconds ++ tail

/-- A format for the time that something has taken, filled in. The letter that it does not know is
given if there is one. -/
def timeReport (time : Nat) : Nat → List Char → Except Char String
  | 0, _ | _, [] => .ok ""
  | fuel + 1, '%' :: rest =>
    let (places, rest) := match rest with
      | c :: more => if c.isDigit then (min 3 (c.toNat - '0'.toNat), more) else (3, rest)
      | [] => (3, rest)
    let (isLong, rest) := match rest with
      | 'l' :: more => (true, more)
      | _ => (false, rest)
    let go := fun (here : String) (rest : List Char) =>
      (timeReport time fuel rest).map (here ++ ·)
    match rest with
    | '%' :: rest => go "%" rest
    | 'R' :: rest => go (timeText places isLong time) rest
    | 'U' :: rest | 'S' :: rest => go (timeText places isLong 0) rest
    | 'P' :: rest => go "0.00" rest
    | [] => .ok "%"
    | c :: _ => .error c
  | fuel + 1, c :: rest => (timeReport time fuel rest).map (c.toString ++ ·)

/-- Tells the time in milliseconds that a statement has taken. -/
def tellTime (plain : Bool) (time : Nat) : Act Unit := do
  let s ← get
  let usual := "\nreal\t%3lR\nuser\t%3lU\nsys\t%3lS"
  let format := if plain then "real %2R\nuser %2U\nsys %2S"
    else (s.text? "TIMEFORMAT").getD usual
  if !format.isEmpty then
    match timeReport time (format.length + 1) format.toList with
    | .ok text => warn (text ++ "\n")
    | .error c => complain ("TIMEFORMAT: `" ++ c.toString ++ "': invalid format character")

/-- Runs a statement, whatever else goes on. -/
def unhurried (r : Runner) (st : Statement) : Act Unit := do
  if (← get).on "noexec" then pure ()
  else
    match st with
    | .both first second =>
      asCondition (r.statements [first])
      if (← get).status = 0 then r.statements [second]
    | .either first second =>
      asCondition (r.statements [first])
      if (← get).status ≠ 0 then r.statements [second]
    | .pipeline negated commands =>
      let run := match commands with
        | [only] => command r only
        | _ => pipeline r commands
      if negated then
        asCondition run
        modify fun s => { s with status := if s.status = 0 then 1 else 0 }
      else
        match commands with
        | [.simple ..] =>
          let outcome ← observe run
          let s ← get
          if s.dialect = .bash then
            set (s.put "PIPESTATUS" { value := some (.items [(0, toString s.status)]) })
          conclude outcome
        | [_] => run
        | _ => checked r run
    | .background inner => Job.start inner
    | .timed plain inner =>
      let began := (← get).clock
      let outcome ← observe (r.statements [inner])
      tellTime plain ((← get).clock - began)
      conclude outcome

/-- Runs a statement. What the time that it takes brings to an end in the background is run then,
and the signals are met that have come. -/
def statement (r : Runner) (st : Statement) : Act Unit := do
  unhurried r st
  let s ← get
  if s.jobs.any fun job => job.status.isNone && job.began < s.clock then
    Job.runUntil r s.clock
    finish s.status
  Builtin.meetSignals r

/-- Complains about a script that cannot be read, and gives it up. -/
def refuse (refusal : Refusal) : Act Unit := do
  let s ← get
  match s.dialect with
  | .dash =>
    forAll refusal.words fun (line, words) => do
      modify (·.reach line)
      complain words
    finish 2
    throw .failure
  | .bash =>
    let name := s.origin.getD s.name
    forAll refusal.words fun (line, words) =>
      warn (name ++ ": " ++ s.readMark ++ "line " ++ toString line ++ ": " ++ words ++ "\n")
    if !(refusal.keepsStatus && s.readMark.isEmpty && s.origin.isNone) then finish 2

/-- What is left of a script, as the shell reads it now. -/
def now (s : State) (src : Source) : Source :=
  { src with
    dialect := s.dialect
    aliases := match s.dialect with
      | .dash => s.aliases
      | .bash => if s.on "expand_aliases" then s.aliases else []
    grouped := s.on "extglob"
    notices := [] }

/-- Reads and runs a line of a script, and gives what is left. Where the larger shell drops the rest
of a statement, it counts the lines on from the one where that happened. -/
def scriptStep (r : Runner) (src : Source) : Act (Option Source) := do
  if src.rest.isEmpty then pure none
  else
    let s ← get
    match Reading.scriptLine (now s src) with
    | .error refusal =>
      refuse refusal
      pure none
    | .ok (script, next) =>
      if s.on "verbose" && (s.dialect = .bash || s.file.isSome || s.origin.isSome) then
        emit 2 (src.rest.take (src.rest.length - next.rest.length))
      forAll next.notices fun (line, words) =>
        warn (prelude s line ++ words ++ "\n")
      modify fun s => { s with
        reached := next.line
        ownReached := if s.nesting = 0 then s.ownReached.map fun _ => next.line
          else s.ownReached }
      let outcome ← observe (forAll script (statement r))
      match outcome, s.dialect with
      | .error .discard, .bash =>
        let s ← get
        if s.isSubshell then throw .exit
        else pure (some { next with line := ((s.line : Int) - s.shift).toNat + 1 })
      | outcome, _ =>
        conclude outcome
        pure (some next)

/-- A script whose last line has an end if the shell sets one there. -/
def closed (src : Source) : Source :=
  match src.dialect, src.rest.getLast? with
  | .bash, some c =>
    if c = '\n' then src
    else
      let text := src.rest ++ ['\n']
      { src with rest := text, lineStart := text }
  | _, _ => src

/-- Runs a script in the form of a text. -/
def script (r : Runner) (src : Source) : Act Unit := do
  let before ← get
  modify fun s => { s with shift := 0 }
  let outcome ← observe (repeatWhile (scriptStep r) (closed src))
  modify fun s => { s with shift := before.shift, reached := before.reached }
  conclude outcome

/-- Runs the script that stands in the input, of which each line is taken away when it is read. -/
def inputScript (r : Runner) : Act Unit := do
  let dialect := (← get).dialect
  repeatWhile (fun (src : Source) => do
    let text := ((← get).rest? 0).getD []
    let src := closed { src with rest := text, lineStart := text }
    if text.isEmpty then pure none
    else
      match Reading.scriptLine (now (← get) src) with
      | .error _ => scriptStep r src
      | .ok (_, next) =>
        let size := src.rest.length - next.rest.length
        modify fun s => s.advance 0 size
        let text := src.rest.take size
        match ← scriptStep r { src with rest := text, lineStart := text } with
        | some after => pure (some { after with line := next.line })
        | none => pure none) { rest := [], dialect }

end RemoteAttach.Shell.Run
