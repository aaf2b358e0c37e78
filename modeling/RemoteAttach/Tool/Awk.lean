import RemoteAttach.Tool.Awk.Evaluate
import RemoteAttach.Tool.Usage

/-! The pattern language: a program is read, and its rules are applied to every record of the
input. -/

namespace RemoteAttach.Tool.Awk

open Shell Act

mutual

/-- The names that an expression uses for tables. `known` tells which parameters of functions are
tables. -/
def Expr.tables (known : String → List Bool) : Expr → List String
  | .number _ | .text _ | .regex _ | .var _ => []
  | .field e | .negate e | .plus e | .not e | .group e => e.tables known
  | .step _ _ e => e.tables known
  | .item name keys | .member keys name => name :: tablesOfAll known keys
  | .assign _ a b | .arithmetic _ a b | .compare _ a b | .fits _ a b =>
    a.tables known ++ b.tables known
  | .concat a b | .and a b | .or a b => a.tables known ++ b.tables known
  | .choose a b c => a.tables known ++ b.tables known ++ c.tables known
  | .call name args => tablesOfArgs known (known name) args ++ tablesOfAll known args
  | .builtin name args =>
    (match name, args with
      | "split", _ :: .var table :: _ => [table]
      | _, _ => []) ++ tablesOfAll known args
  | .getline _ a b =>
    (match a with
      | some e => e.tables known
      | none => []) ++
    (match b with
      | some e => e.tables known
      | none => [])
  | .tuple es => tablesOfAll known es

/-- The names that some expressions use for tables. -/
def tablesOfAll (known : String → List Bool) : List Expr → List String
  | [] => []
  | e :: rest => e.tables known ++ tablesOfAll known rest

/-- The names that stand where a call takes tables. -/
def tablesOfArgs (known : String → List Bool) : List Bool → List Expr → List String
  | true :: more, .var name :: rest => name :: tablesOfArgs known more rest
  | _ :: more, _ :: rest => tablesOfArgs known more rest
  | _, _ => []

end

/-- The names that some expressions use for tables. -/
def tablesOfOption (known : String → List Bool) : Option Expr → List String
  | some e => e.tables known
  | none => []

/-- The names that output uses for tables. -/
def Aim.tables (known : String → List Bool) : Aim → List String
  | .output => []
  | .file e | .append e | .command e => e.tables known

mutual

/-- The names that a statement uses for tables. -/
def Statement.tables (known : String → List Bool) : Statement → List String
  | .block body => tablesOfBody known body
  | .expr e => e.tables known
  | .print args aim | .printf args aim => tablesOfAll known args ++ aim.tables known
  | .branch condition yes no =>
    condition.tables known ++ yes.tables known ++
      (match no with
        | some s => s.tables known
        | none => [])
  | .whileLoop condition body | .doLoop body condition =>
    condition.tables known ++ body.tables known
  | .forLoop start condition next body =>
    tablesOfOption known start ++ tablesOfOption known condition ++ tablesOfOption known next ++
      body.tables known
  | .forKeys _ table body => table :: body.tables known
  | .exit e | .giveBack e => tablesOfOption known e
  | .delete table keys => table :: tablesOfAll known keys
  | .deleteAll table => [table]
  | .breakLoop | .continueLoop | .nextRecord | .nextFile => []

/-- The names that some statements use for tables. -/
def tablesOfBody (known : String → List Bool) : List Statement → List String
  | [] => []
  | s :: rest => s.tables known ++ tablesOfBody known rest

end

/-- The parameters of functions that are tables, found in a number of rounds, of which each one
knows the result of the one before. -/
def tableParams (functions : List Function) : Nat → List (String × List Bool)
  | 0 => []
  | rounds + 1 =>
    let before := tableParams functions rounds
    let known := fun name => (before.lookup name).getD []
    functions.map fun f =>
      let used := tablesOfBody known f.body
      (f.name, f.params.map used.contains)

/-- The complaint about a program that cannot be read, and more about what follows from it. -/
def Fault.complaints (line : Nat) (braces : Bool) : Fault → List String
  | unexpected token => [place ++ "syntax error at or near " ++ token]
  | missing mark near =>
    (place ++ "missing " ++ mark.toString ++ " near " ++ near) ::
      (if mark = ')' && near = "end of line" && braces then
        ["line " ++ toString (line + 1) ++ ": missing \x7d near end of file"] else [])
  | extra mark =>
    [place ++ "extra '" ++ mark.toString ++ "'", place ++ "syntax error at or near end of line"]
  | openText start => [place ++ "runaway string constant " ++ start ++ " ..."]
  | openRegex start => [place ++ "runaway regular expression " ++ start ++ " ..."]
  | regex reason text =>
    [place ++ "regular expression compile failed (" ++ reason ++ ")\n" ++ text]
  | character c => [toString line ++ ": unexpected character '" ++ c.toString ++ "'"]
  | argumentCount name => [place ++ "wrong number of arguments in call to " ++ name]
  | printfArguments => [place ++ "no arguments in call to printf"]
  | outside words => [place ++ words]
  | tooLong => [place ++ "program too large"]
where
  place : String := "line " ++ toString line ++ ": "

/-- What a call of the program asks for. -/
structure Request where
  separator : Option String := none
  assigned : List String := []
  files : List String := []
  operands : List String := []
  /-- The options that are passed over. -/
  vacuous : List String := []

/-- Why a call is refused. -/
inductive Refusal where
  | version
  | help
  | unknown (option : String)
  | noValue (option : Char)

/-- Reads the arguments of a call. -/
def requestOf (before : Request) : List String → Except Refusal Request
  | [] => .ok before
  | arg :: rest =>
    match arg.toList with
    | ['-', '-'] => .ok { before with operands := rest }
    | '-' :: c :: value =>
      if c = 'F' || c = 'v' || c = 'f' || c = 'W' then
        let take (value : String) : Except Refusal Request :=
          match c with
          | 'F' => .ok { before with separator := some value }
          | 'v' => .ok { before with assigned := before.assigned ++ [value] }
          | 'f' => .ok { before with files := before.files ++ [value] }
          | _ =>
            let fits := fun (name : String) => value ≠ "" && name.startsWith value.toLower
            if ["version", "v"].any fits then .error .version
            else if ["help", "usage"].any fits then .error .help
            else if ["dump", "interactive", "posix_space", "exec", "random", "sprintf"].any
                fun name => fits name || value.startsWith (name ++ "=") then .ok before
            else .ok { before with vacuous := before.vacuous ++ [value] }
        match value, rest with
        | _ :: _, rest => do requestOf (← take (String.ofList value)) rest
        | [], value :: rest => do requestOf (← take value) rest
        | [], [] => .error (.noValue c)
      else if arg = "--version" || arg = "-version" || arg = "-V" then .error .version
      else if arg = "--help" || arg = "-help" || arg = "-h" then .error .help
      else .error (.unknown arg)
    | _ => .ok { before with operands := arg :: rest }

namespace Run

/-- Does something, and tells how it is left if it is. -/
def attempt {α : Type} (action : Run α) : Run (Except Abort α) := fun m s =>
  match action m s with
  | (.ok (outcome, m), s) => (.ok (.ok outcome, m), s)
  | (.error leave, s) => (.error leave, s)

/-- A rule is to be applied to the record. -/
def selects (r : Runner) (index : Nat) : Pattern → Run Bool
  | .atStart | .atEnd => pure false
  | .always => pure true
  | .holds e => do
    pure (← eval r maxDepth e).holds
  | .range first last => do
    let goesOn := (← get).active.contains index
    if goesOn || (← eval r maxDepth first).holds then
      let ends := (← eval r maxDepth last).holds
      change fun m =>
        let others := m.active.filter (· ≠ index)
        { m with active := if ends then others else index :: others }
      pure true
    else pure false

/-- Does what the action of a rule says. -/
def act (r : Runner) (rule : Rule) : Run Unit := do
  match rule.action with
  | none =>
    let text ← record
    write (text ++ (← globalText "ORS"))
  | some body =>
    let _ ← run r maxDepth (.block body)

/-- Applies the rules to the record. -/
def applyRules (r : Runner) (rules : List (Rule × Nat)) : Run Unit :=
  rules.forM fun (rule, index) => do
    if ← selects r index rule.pattern then act r rule

/-- Goes through the records, and tells whether the program is to end at once. -/
def records (r : Runner) (rules : List (Rule × Nat)) : Run Bool :=
  repeatUntil (do
    match ← readRecord with
    | none => pure (some false)
    | some text =>
      setRecord text
      match ← attempt (applyRules r rules) with
      | .ok _ | .error .nextRecord => pure none
      | .error .nextFile =>
        change fun m => { m with input := m.input.map fun _ => [] }
        pure none
      | .error .exit => pure (some true)) maxRounds

/-- Runs a program. -/
def program (r : Runner) (p : Program) : Run Unit := do
  let isStart (rule : Rule) : Bool := match rule.pattern with
    | .atStart => true
    | _ => false
  let isEnd (rule : Rule) : Bool := match rule.pattern with
    | .atEnd => true
    | _ => false
  let main := (p.rules.filter fun rule => !isStart rule && !isEnd rule).zipIdx
  let ending := p.rules.filter isEnd
  let early ← attempt ((p.rules.filter isStart).forM (act r))
  let stopped := match early with
    | .error .exit => true
    | _ => false
  if !stopped && !(main.isEmpty && ending.isEmpty) then
    let _ ← attempt (records r main)
  let _ ← attempt (ending.forM (act r))
  settle r

/-- Sets a variable as the text of an assignment says. -/
def assign (text : String) : Run Unit := do
  if !(← assignArgument text.toList) then
    giveUp ("improper assignment: -v " ++ text)

/-- Sets the variables that a program starts with. -/
def prepare (request : Request) (args : List String) : Run Unit := do
  let texts := [("FS", " "), ("OFS", " "), ("ORS", "\n"), ("RS", "\n"), ("SUBSEP", "\x1c"),
    ("CONVFMT", "%.6g"), ("OFMT", "%.6g"), ("FILENAME", "")]
  texts.forM fun (name, value) => setVar name (.text value.toList)
  setVar "NR" (.number 0)
  setVar "FNR" (.number 0)
  setVar "ARGC" (.number (Float.ofNat args.length))
  let argv ← table "ARGV"
  args.zipIdx.forM fun (arg, n) => setItem argv (.number n) (.input arg.toList)
  let environ ← table "ENVIRON"
  (environment (← lift get)).forM fun (name, value) =>
    setItem environ (.text name) (.input value.toList)
  match request.separator with
  | some value => setVar "FS" (.text (Token.unescaped 0 value.toList))
  | none => pure ()
  request.assigned.forM assign

end Run

/-- The text of a program that is in files. -/
def textOfFiles (files : List String) : Act (List Char) := do
  let texts ← files.mapM fun file => do
    match ← Run.contentOf file with
    | .ok text => pure text
    | .error e => fail ("cannot open " ++ file ++ " (" ++ e.reason ++ ")") 2
  pure (List.intercalate ['\n'] texts)

mutual

/-- The names of the functions that an expression calls, each with the number of arguments. -/
def Expr.calls : Expr → List (String × Nat)
  | .number _ | .text _ | .regex _ | .var _ => []
  | .field e | .negate e | .plus e | .not e | .group e => e.calls
  | .step _ _ e => e.calls
  | .item _ keys | .member keys _ => callsOfAll keys
  | .assign _ a b | .arithmetic _ a b | .compare _ a b | .fits _ a b => a.calls ++ b.calls
  | .concat a b | .and a b | .or a b => a.calls ++ b.calls
  | .choose a b c => a.calls ++ b.calls ++ c.calls
  | .call name args => callsOfAll args ++ [(name, args.length)]
  | .builtin _ args => callsOfAll args
  | .getline _ a b =>
    (match a with
      | some e => e.calls
      | none => []) ++
    (match b with
      | some e => e.calls
      | none => [])
  | .tuple es => callsOfAll es

/-- The calls in some expressions. -/
def callsOfAll : List Expr → List (String × Nat)
  | [] => []
  | e :: rest => e.calls ++ callsOfAll rest

end

/-- The calls in an expression that may be missing. -/
def callsOfOption : Option Expr → List (String × Nat)
  | some e => e.calls
  | none => []

/-- The calls where output is aimed. -/
def Aim.calls : Aim → List (String × Nat)
  | .output => []
  | .file e | .append e | .command e => e.calls

mutual

/-- The calls in a statement. -/
def Statement.calls : Statement → List (String × Nat)
  | .block body => callsOfBody body
  | .expr e => e.calls
  | .print args aim | .printf args aim => callsOfAll args ++ aim.calls
  | .branch condition yes no =>
    condition.calls ++ yes.calls ++
      (match no with
        | some s => s.calls
        | none => [])
  | .whileLoop condition body | .doLoop body condition => condition.calls ++ body.calls
  | .forLoop start condition next body =>
    callsOfOption start ++ callsOfOption condition ++ callsOfOption next ++ body.calls
  | .forKeys _ _ body => body.calls
  | .exit e | .giveBack e => callsOfOption e
  | .delete _ keys => callsOfAll keys
  | .breakLoop | .continueLoop | .nextRecord | .nextFile | .deleteAll _ => []

/-- The calls in some statements. -/
def callsOfBody : List Statement → List (String × Nat)
  | [] => []
  | s :: rest => s.calls ++ callsOfBody rest

end

/-- The calls in a program. -/
def Program.calls (p : Program) : List (String × Nat) :=
  let ofPattern (pattern : Pattern) : List (String × Nat) := match pattern with
    | .holds e => e.calls
    | .range a b => a.calls ++ b.calls
    | _ => []
  (p.rules.flatMap fun rule => ofPattern rule.pattern ++ callsOfBody (rule.action.getD [])) ++
    p.functions.flatMap fun f => callsOfBody f.body

/-- Refuses a program. -/
def refuse {α : Type} (complaints : List String) : Act α := do
  forAll complaints complain
  finish 2
  throw .exit

/-- Runs a program of the language. -/
def start (r : Runner) (args : List String) : Act Unit := do
  match requestOf {} args with
  | .error .version => writeText (Usage.lines ["mawk 1.3.4 20200120"])
  | .error .help => writeText Usage.patternLanguage
  | .error (.unknown option) => fail ("not an option: " ++ option) 2
  | .error (.noValue option) => fail ("option -" ++ option.toString ++ " lacks argument") 2
  | .ok request =>
    forAll request.vacuous fun option =>
      complain ("vacuous option: -W " ++ Run.quoted option.toList)
    let (text, operands) ← match request.files, request.operands with
      | [], [] =>
        warn Usage.patternLanguage
        throw .exit
      | [], program :: operands => pure (program.toList, operands)
      | files, operands => do
        pure (← textOfFiles files, operands)
    match Program.read text with
    | .error (fault, line) =>
      refuse (fault.complaints line (text.count '\x7d' < text.count '\x7b'))
    | .ok p =>
      let line := text.count '\n' + 2
      match p.calls.find? fun (name, _) => !p.functions.any (·.name = name) with
      | some (name, _) =>
        refuse ["line " ++ toString line ++ ": function " ++ name ++ " never defined"]
      | none => pure ()
      let m : Machine := {
        functions := p.functions
        tableParams := tableParams p.functions (p.functions.length + 1) }
      let action : Run Unit := do
        Run.prepare request ("awk" :: operands)
        Run.program r p
      let (_, m) ← StateT.run (ExceptT.run action) m
      finish m.status

end RemoteAttach.Tool.Awk
