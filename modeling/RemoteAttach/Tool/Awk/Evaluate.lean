import RemoteAttach.Tool.Awk.Format
import RemoteAttach.Tool.Awk.Machine

/-! How expressions of the pattern language are evaluated, and what its statements do. -/

namespace RemoteAttach.Tool.Awk

open Shell Act

/-- How a statement ends. -/
inductive Flow where
  | on
  | broken
  | continued
  | returned (v : Value)

/-- A place that can be given a value. -/
inductive Location where
  | var (name : String)
  | field (n : Nat)
  | item (table : Nat) (key : Key)

/-- The exact remainder of a division of numbers, with the sign of the first one. -/
def remainder (x y : Float) : Float :=
  match Decimal.Quantity.ofFloat x, Decimal.Quantity.ofFloat y with
  | .ratio negative n d, .ratio _ m e =>
    if m = 0 then 0.0 / 0.0
    else (Decimal.Quantity.ratio negative ((n * e) % (m * d)) (d * e)).toFloat
  | .ratio .., .infinite _ => x
  | _, _ => 0.0 / 0.0

/-- The result of an operation on numbers. -/
def Arithmetic.apply (operation : Arithmetic) (x y : Float) : Float :=
  match operation with
  | add => x + y
  | sub => x - y
  | mul => x * y
  | div => x / y
  | rem => remainder x y
  | pow => Float.pow x y

/-- A comparison holds of the way in which values compare. -/
def Comparison.holds (comparison : Comparison) (order : Ordering) : Bool :=
  match comparison with
  | less => order = .lt
  | lessOrEqual => order ≠ .gt
  | equal => order = .eq
  | notEqual => order ≠ .eq
  | greater => order = .gt
  | greaterOrEqual => order ≠ .lt

/-- A number without its fraction. -/
def truncated (x : Float) : Float :=
  if x < 0 then x.ceil else x.floor

/-- The index of the first place where a part stands in a text, counted from one. -/
def indexOf (part : List Char) : Nat → List Char → Nat
  | n, [] => if part.isEmpty then n else 0
  | n, c :: rest => if part.isPrefixOf (c :: rest) then n else indexOf part (n + 1) rest

/-- A part of a text that begins at a number, counted from one. A part that would begin earlier
begins at one, and is longer by as much as its number is below zero. -/
def partOf (text : List Char) (first : Float) (length : Option Float) : List Char :=
  let first := wholePart first
  let start := (max first 1).toNat - 1
  match length with
  | none => text.drop start
  | some length =>
    let length := wholePart length
    let length := if first < 1 then length - first else length
    (text.drop start).take length.toNat

/-- What replaces a match: the match for a sign that stands for it, and the sign itself after a
backslash. Two backslashes stand for one before the sign, and for themselves elsewhere; `slashes` is
their number so far. -/
def replacement (found : List Char) (slashes : Nat) : List Char → List Char
  | '\\' :: rest => replacement found (slashes + 1) rest
  | '&' :: rest =>
    List.replicate (slashes / 2) '\\' ++ (if slashes % 2 = 1 then ['&'] else found) ++
      replacement found 0 rest
  | c :: rest => List.replicate slashes '\\' ++ c :: replacement found 0 rest
  | [] => List.replicate slashes '\\'

/-- A text with matches replaced from a position on, in reverse, and the number of replacements.
`last` is the place where the last match ended. -/
def replaceFrom (r : Regex) (by' : List Char) (everywhere : Bool) (text : Array Char) :
    Nat → Nat → Option Nat → Nat → List Char → List Char × Nat
  | 0, start, _, count, out => ((text.extract start text.size).toList.reverse ++ out, count)
  | fuel + 1, start, last, count, out =>
    let finish (start count : Nat) (out : List Char) : List Char × Nat :=
      ((text.extract start text.size).toList.reverse ++ out, count)
    if text.size < start then (out, count)
    else
      match r.find? text start with
      | none => finish start count out
      | some m =>
        let out := (text.extract start m.start).toList.reverse ++ out
        let one := (text.extract m.stop (m.stop + 1)).toList
        let isEmpty := m.start = m.stop
        let skip (count : Nat) (out : List Char) : List Char × Nat :=
          if text.size ≤ m.stop then (out, count)
          else replaceFrom r by' everywhere text fuel (m.stop + 1) none count (one ++ out)
        if isEmpty && last = some m.start then skip count out
        else
          let found := (text.extract m.start m.stop).toList
          let out := (replacement found 0 by').reverse ++ out
          if !everywhere then finish m.stop (count + 1) out
          else if isEmpty then skip (count + 1) out
          else replaceFrom r by' everywhere text fuel m.stop (some m.stop) (count + 1) out

/-- The words that random numbers begin with, and those that come of them: each word is the sum of
the one three places before it and the one 31 places before it. -/
def randomWords (seed : Nat) : List UInt32 :=
  let rec first : Nat → Nat → List UInt32
    | 0, _ => []
    | count + 1, word => word.toUInt32 :: first count (16807 * word % 0x7FFFFFFF)
  let words := first 31 (if seed = 0 then 1 else seed)
  (List.range 310).foldl (fun words _ => nextWords words) (words.drop 3 ++ words.take 3)
where
  /-- The latest words without the first one and with one more. -/
  nextWords (words : List UInt32) : List UInt32 :=
    words.drop 1 ++ [words.headD 0 + words.getD 28 0]

/-- The deepest nesting of expressions and calls. -/
def maxDepth : Nat := 6000

namespace Run

/-- Gives a place a value. -/
def store (l : Location) (v : Value) : Run Unit :=
  match l with
  | .var name => setVar name v
  | .field n => setField n v
  | .item t key => setItem t key v

/-- The value at a place. -/
def load (l : Location) : Run Value :=
  match l with
  | .var name => var name
  | .field n => field n
  | .item t key => item t key

/-- The number of a field. -/
def fieldNumber (v : Value) : Run Nat := do
  let n := wholePart v.toNumber
  if n < 0 then fault ("negative field index $" ++ toString n)
  pure n.toNat

/-- The key for several values. -/
def keyOfAll (vs : List Value) : Run Key := do
  match vs with
  | [v] => keyOf v
  | vs =>
    let separator ← globalText "SUBSEP"
    let texts ← vs.mapM textOf
    pure (.text (String.ofList (List.intercalate separator texts)))

/-- A formatted text. -/
def formatted (partly : Bool) (name : String) (vs : List Value) : Run (List Char) := do
  match vs with
  | [] => pure []
  | f :: args =>
    let f ← textOf f
    let (text, wrong) := Format.textFrom (← form) 0 0 f args []
    match wrong with
    | none => pure text
    | some w =>
      if partly then write text
      fault (w.message (name ++ "(\"" ++ String.ofList f ++ "\")"))

/-- The value of a function of the language on numbers. -/
def numeric? : String → Option (Float → Float)
  | "cos" => some Float.cos
  | "exp" => some Float.exp
  | "int" => some truncated
  | "log" => some Float.log
  | "sin" => some Float.sin
  | "sqrt" => some Float.sqrt
  | _ => none

/-- The value of a function of the language whose arguments are values. -/
def builtin (r : Runner) (name : String) (vs : List Value) : Run Value := do
  let nth (n : Nat) : Value := vs.getD n .blank
  match numeric? name with
  | some f => pure (.number (f (nth 0).toNumber))
  | none =>
    match name with
    | "atan2" => pure (.number (Float.atan2 (nth 0).toNumber (nth 1).toNumber))
    | "close" => pure (.number (ofInt (← close r (String.ofList (← textOf (nth 0))))))
    | "fflush" =>
      flushAll
      pure (.number 0)
    | "index" =>
      let text ← textOf (nth 0)
      pure (.number (Float.ofNat (indexOf (← textOf (nth 1)) 1 text)))
    | "length" =>
      let text ← if vs.isEmpty then record else textOf (nth 0)
      pure (.number (Float.ofNat text.length))
    | "rand" =>
      change fun m => { m with random := randomWords.nextWords m.random }
      let word := (← get).random.getLastD 0
      pure (.number (Float.ofNat (word >>> 1).toNat / 2147483647.0))
    | "srand" =>
      let m ← get
      let seed := if vs.isEmpty then 0 else (nth 0).toNumber
      change fun m => { m with seed, random := randomWords seed.toUInt32.toNat }
      pure (.number m.seed)
    | "sprintf" => pure (.text (← formatted false "sprintf" vs))
    | "substr" =>
      let text ← textOf (nth 0)
      pure (.text (partOf text (nth 1).toNumber ((vs[2]?).map Value.toNumber)))
    | "system" =>
      let command ← textOf (nth 0)
      flushAll
      pure (.number (Float.ofNat (endNumber (← lift (inChild (becomeShell r command))))))
    | "tolower" => pure (.text ((← textOf (nth 0)).map Char.toLower))
    | "toupper" => pure (.text ((← textOf (nth 0)).map Char.toUpper))
    | _ => pure (.number 0)

/-- Reads a line from where an expression says, and puts it where it is wanted. -/
def takeLine (r : Runner) (origin : Origin) (source : String) (target : Option Location) :
    Run Value := do
  let result ← match origin with
    | .input => do
      match ← readRecord with
      | some text => pure (Except.ok (some text))
      | none => pure (.ok none)
    | .file => readFrom r false source
    | .command => readFrom r true source
  match result with
  | .error _ => pure (.number (-1))
  | .ok none => pure (.number 0)
  | .ok (some text) =>
    match target with
    | some l => store l (.input text)
    | none => setRecord text
    pure (.number 1)

/-- The frame of a call: the values and tables of its parameters. -/
def frameOf (f : Function) (isTable : List Bool) (args : List (Value ⊕ Nat)) : Run Frame := do
  let step (frame : Frame) (param : String × Nat) : Run Frame := do
    let (name, n) := param
    if isTable.getD n false then
      match args[n]? with
      | some (.inr index) => pure { frame with tables := (name, index) :: frame.tables }
      | _ =>
        let index := (← get).tables.size
        change fun m => { m with tables := m.tables.push {} }
        pure { frame with tables := (name, index) :: frame.tables }
    else
      let v := match args[n]? with
        | some (.inl v) => v
        | _ => .blank
      pure { frame with values := frame.values ++ [(name, v)] }
  f.params.zipIdx.foldlM step {}

mutual

/-- The value of an expression. -/
def eval (r : Runner) : Nat → Expr → Run Value
  | 0, _ => lift (throw .endless)
  | fuel + 1, e =>
    match e with
    | .number x => pure (.number x)
    | .text s => pure (.text s)
    | .regex regex => do
      pure (.ofBool (regex.occursIn (← record).toArray))
    | .var name => var name
    | .field _ | .item .. => do
      load (← locate r fuel e)
    | .assign operation target value => do
      let l ← locate r fuel target
      match operation with
      | none =>
        let v ← eval r fuel value
        store l v
        pure v
      | some operation =>
        let y ← eval r fuel value
        let x ← load l
        let v := Value.number (operation.apply x.toNumber y.toNumber)
        store l v
        pure v
    | .step up after target => do
      let l ← locate r fuel target
      let x := (← load l).toNumber
      let y := if up then x + 1 else x - 1
      store l (.number y)
      pure (.number (if after then y else x))
    | .arithmetic operation a b => do
      let x ← eval r fuel a
      let y ← eval r fuel b
      pure (.number (operation.apply x.toNumber y.toNumber))
    | .negate e => do
      pure (.number (-(← eval r fuel e).toNumber))
    | .plus e => do
      pure (.number (← eval r fuel e).toNumber)
    | .not e => do
      pure (.ofBool !(← eval r fuel e).holds)
    | .compare comparison a b => do
      let x ← eval r fuel a
      let y ← eval r fuel b
      pure (.ofBool (comparison.holds (Value.compare (← form) x y)))
    | .fits negated e pattern => do
      let text ← textOf (← eval r fuel e)
      let regex ← regexAt r fuel pattern
      pure (.ofBool (regex.occursIn text.toArray != negated))
    | .concat a b => do
      let x ← textOf (← eval r fuel a)
      let y ← textOf (← eval r fuel b)
      pure (.text (x ++ y))
    | .and a b => do
      if (← eval r fuel a).holds then
        pure (.ofBool (← eval r fuel b).holds)
      else pure (.ofBool false)
    | .or a b => do
      if (← eval r fuel a).holds then pure (.ofBool true)
      else pure (.ofBool (← eval r fuel b).holds)
    | .choose condition yes no => do
      if (← eval r fuel condition).holds then eval r fuel yes else eval r fuel no
    | .member keys name => do
      let key ← keyOfAll (← evalAll r fuel keys)
      let index ← table name
      let t := (← get).tables.getD index {}
      let (found, t) := match key with
        | .text s => t.find s
        | .number n => t.findNumber n
      changeTable index fun _ => t
      pure (.ofBool found.isSome)
    | .call name args => do
      match (← get).functions.find? (·.name = name) with
      | none => giveUp ("function " ++ name ++ " never defined")
      | some f =>
        let m ← get
        let isTable := (m.tableParams.lookup name).getD []
        let args ← evalArgs r fuel isTable 0 args
        let frame ← frameOf f isTable args
        let before := (← get).frame
        change fun m => { m with frame }
        let flow ← run r fuel (.block f.body)
        change fun m => { m with frame := before }
        match flow with
        | .returned v => pure v
        | _ => pure .blank
    | .builtin "split" args => do
      match args with
      | text :: .var name :: more =>
        let text ← textOf (← eval r fuel text)
        let pieces ← match more with
          | [.regex regex] =>
            let chars := text.toArray
            pure (if text.isEmpty then [] else splitAt regex chars (chars.size + 2) 0 0)
          | e :: _ => parts (← textOf (← eval r fuel e)) text
          | [] => parts (← globalText "FS") text
        let index ← table name
        changeTable index fun _ => Table.ofList (pieces.map Value.input)
        pure (.number (Float.ofNat pieces.length))
      | _ => giveUp "type error in arg(2) in call to split"
    | .builtin "sub" args => substitute r fuel false args
    | .builtin "gsub" args => substitute r fuel true args
    | .builtin "match" args => do
      match args with
      | [text, pattern] =>
        let text ← textOf (← eval r fuel text)
        let regex ← regexAt r fuel pattern
        let (start, length) : Int × Int := match regex.find? text.toArray 0 with
          | some m => ((m.start : Int) + 1, ((m.stop - m.start : Nat) : Int))
          | none => (0, -1)
        setVar "RSTART" (.number (ofInt start))
        setVar "RLENGTH" (.number (ofInt length))
        pure (.number (ofInt start))
      | _ => pure (.number 0)
    | .builtin "length" [.var name] => do
      let m ← get
      match m.frame.values.lookup name, m.frame.tables.lookup name, m.globalTables[name]? with
      | none, some index, _ | none, none, some index =>
        pure (.number (Float.ofNat (m.tables.getD index {}).size))
      | _, _, _ => builtin r "length" [← var name]
    | .builtin name args => do
      builtin r name (← evalAll r fuel args)
    | .getline origin source target => do
      let name ← match source with
        | some e => do
          pure (String.ofList (← textOf (← eval r fuel e)))
        | none => pure ""
      let l ← match target with
        | some e => do
          pure (some (← locate r fuel e))
        | none => pure none
      takeLine r origin name l
    | .group e => eval r fuel e
    | .tuple es => do
      let vs ← evalAll r fuel es
      pure (vs.getLastD .blank)

/-- The values of some expressions. -/
def evalAll (r : Runner) : Nat → List Expr → Run (List Value)
  | 0, _ => lift (throw .endless)
  | fuel + 1, es =>
    match es with
    | [] => pure []
    | e :: rest => do
      let v ← eval r fuel e
      pure (v :: (← evalAll r fuel rest))

/-- The arguments of a call, of which some are tables. -/
def evalArgs (r : Runner) : Nat → List Bool → Nat → List Expr → Run (List (Value ⊕ Nat))
  | 0, _, _, _ => lift (throw .endless)
  | fuel + 1, isTable, n, es =>
    match es with
    | [] => pure []
    | e :: rest => do
      let here : Value ⊕ Nat ← match isTable.getD n false, e with
        | true, .var name => do
          pure (.inr (← table name))
        | _, e => do
          pure (.inl (← eval r fuel e))
      pure (here :: (← evalArgs r fuel isTable (n + 1) rest))

/-- The place that an expression stands for. -/
def locate (r : Runner) : Nat → Expr → Run Location
  | 0, _ => lift (throw .endless)
  | fuel + 1, e =>
    match e with
    | .var name => pure (.var name)
    | .field index => do
      pure (.field (← fieldNumber (← eval r fuel index)))
    | .item name keys => do
      let key ← keyOfAll (← evalAll r fuel keys)
      pure (.item (← table name) key)
    | .group e => locate r fuel e
    | _ => pure (.var "")

/-- The regular expression that an expression stands for. -/
def regexAt (r : Runner) : Nat → Expr → Run Regex
  | 0, _ => lift (throw .endless)
  | fuel + 1, e =>
    match e with
    | .regex regex => pure regex
    | .group (.regex regex) => pure regex
    | e => do
      regexFor (← textOf (← eval r fuel e))

/-- Replaces matches in a variable, or in the record. -/
def substitute (r : Runner) : Nat → Bool → List Expr → Run Value
  | 0, _, _ => lift (throw .endless)
  | fuel + 1, everywhere, args =>
    match args with
    | pattern :: by' :: target => do
      let regex ← regexAt r fuel pattern
      let new ← textOf (← eval r fuel by')
      let l ← match target with
        | e :: _ => locate r fuel e
        | [] => pure (.field 0)
      let text := (← textOf (← load l)).toArray
      let (reversed, count) := replaceFrom regex new everywhere text (text.size + 2) 0 none 0 []
      if count ≠ 0 then store l (.text reversed.reverse)
      pure (.number (Float.ofNat count))
    | _ => pure (.number 0)

/-- Does what a statement says. -/
def run (r : Runner) : Nat → Statement → Run Flow
  | 0, _ => lift (throw .endless)
  | fuel + 1, s =>
    match s with
    | .block body => runAll r fuel body
    | .expr e => do
      let _ ← eval r fuel e
      pure .on
    | .print args aim => do
      let text ← match args with
        | [] => record
        | args => do
          let vs ← evalAll r fuel args
          let outputForm ← globalText "OFMT"
          let texts := vs.map fun v => v.toText outputForm
          pure (List.intercalate (← globalText "OFS") texts)
      let mark ← globalText "ORS"
      output r fuel aim (text ++ mark)
      pure .on
    | .printf args aim => do
      let vs ← evalAll r fuel args
      let isPlain := match aim with
        | .output => true
        | _ => false
      output r fuel aim (← formatted isPlain "printf" vs)
      pure .on
    | .branch condition yes no => do
      if (← eval r fuel condition).holds then run r fuel yes
      else
        match no with
        | some no => run r fuel no
        | none => pure .on
    | .whileLoop condition body => loop r fuel (some condition) none body
    | .doLoop body condition => do
      match ← run r fuel body with
      | .broken => pure .on
      | .returned v => pure (.returned v)
      | _ => loop r fuel (some condition) none body
    | .forLoop start condition next body => do
      match start with
      | some e =>
        let _ ← eval r fuel e
      | none => pure ()
      loop r fuel condition next body
    | .forKeys key name body => do
      let l ← locate r fuel key
      let index ← table name
      let t := ((← get).tables.getD index {}).spell
      changeTable index fun _ => t
      forKeys r fuel l t.keys body
    | .breakLoop => pure .broken
    | .continueLoop => pure .continued
    | .nextRecord => throw .nextRecord
    | .nextFile => throw .nextFile
    | .exit status => do
      match status with
      | some e =>
        let n := wholePart (← eval r fuel e).toNumber
        change fun m => { m with status := (n % 256).toNat }
      | none => pure ()
      throw .exit
    | .giveBack value => do
      match value with
      | some e => pure (.returned (← eval r fuel e))
      | none => pure (.returned .blank)
    | .delete name keys => do
      let key ← keyOfAll (← evalAll r fuel keys)
      let index ← table name
      changeTable index fun t => t.erase key.toText
      pure .on
    | .deleteAll name => do
      let index ← table name
      changeTable index fun _ => {}
      pure .on

/-- Does what some statements say. -/
def runAll (r : Runner) : Nat → List Statement → Run Flow
  | 0, _ => lift (throw .endless)
  | fuel + 1, body =>
    match body with
    | [] => pure .on
    | s :: rest => do
      match ← run r fuel s with
      | .on => runAll r fuel rest
      | flow => pure flow

/-- Runs a loop as long as its condition holds. -/
def loop (r : Runner) : Nat → Option Expr → Option Expr → Statement → Run Flow
  | 0, _, _, _ => lift (throw .endless)
  | fuel + 1, condition, next, body =>
    repeatUntil (do
      let goes ← match condition with
        | some e => do
          pure (← eval r fuel e).holds
        | none => pure true
      if !goes then pure (some .on)
      else
        match ← run r fuel body with
        | .broken => pure (some .on)
        | .returned v => pure (some (.returned v))
        | _ =>
          match next with
          | some e =>
            let _ ← eval r fuel e
          | none => pure ()
          pure none) maxRounds

/-- Runs a loop for some keys. -/
def forKeys (r : Runner) : Nat → Location → List String → Statement → Run Flow
  | 0, _, _, _ => lift (throw .endless)
  | fuel + 1, l, keys, body => do
    let step (flow : Option Flow) (key : String) : Run (Option Flow) := do
      if flow.isSome then pure flow
      else
        store l (.input key.toList)
        match ← run r fuel body with
        | .broken => pure (some .on)
        | .returned v => pure (some (.returned v))
        | _ => pure none
    pure ((← keys.foldlM step none).getD .on)

/-- Writes a text where it is aimed. -/
def output (r : Runner) : Nat → Aim → List Char → Run Unit
  | 0, _, _ => lift (throw .endless)
  | fuel + 1, aim, text =>
    match aim with
    | .output => write text
    | .file name => do
      writeTo false .forced (String.ofList (← textOf (← eval r fuel name))) text
    | .append name => do
      writeTo false .append (String.ofList (← textOf (← eval r fuel name))) text
    | .command name => do
      writeTo true .append (String.ofList (← textOf (← eval r fuel name))) text

end

end Run

end RemoteAttach.Tool.Awk
