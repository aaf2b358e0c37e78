import RemoteAttach.Shell.Arithmetic
import RemoteAttach.Shell.State

/-! The variables of a shell: what parameters hold, assignments and their refusals, and the values
of arithmetic expressions. -/

namespace RemoteAttach.Shell

/-- What a parameter holds. -/
inductive Held where
  | nothing
  | one (text : String)
  /-- Several texts; `joined` tells that quotes make them a single field. -/
  | all (texts : List String) (joined : Bool)

namespace Held

/-- The parameter is set, and not to an empty text if `filled` is asked for. Parameters without a
member are set in one of the dialects. -/
def isSet (dialect : Dialect) (filled : Bool) : Held → Bool
  | .nothing => false
  | .one text => !filled || !text.isEmpty
  | .all [] _ => !filled && dialect = .dash
  | .all texts _ => !filled || 1 < texts.length || texts.any (!·.isEmpty)

/-- The text of what is held. -/
def text : Held → String
  | .nothing => ""
  | .one text => text
  | .all texts _ => String.intercalate " " texts

/-- What is held, with each text changed. -/
def map (change : String → String) : Held → Held
  | .nothing => .nothing
  | .one text => .one (change text)
  | .all texts joined => .all (texts.map change) joined

/-- The atoms of what is held. Where words are not cut into `fields`, joined texts have the first
separator between them; in the larger shell they also have it before they are cut. -/
def atoms (dialect : Dialect) (separators : List Char) (fields quoted : Bool) :
    Held → List Atom
  | .nothing => if quoted then Atom.ofQuoted [] else []
  | .one text => if quoted then Atom.ofQuoted text.toList else text.toList.map .loose
  | .all texts joined =>
    let between := String.ofList (separators.take 1)
    if joined && quoted then Atom.ofQuoted (String.intercalate between texts).toList
    else if joined && !fields || (dialect = .bash && !quoted && !separators.isEmpty) then
      (String.intercalate between texts).toList.map .loose
    else
      List.intercalate [.cut] (texts.map fun text =>
        if quoted then Atom.ofQuoted text.toList else text.toList.map .loose)

end Held

namespace State

/-- The letters of the options that are on, in the order in which a shell tells them. -/
def optionLetters (s : State) : String :=
  let order := match s.dialect with
    | .dash => "ubaCEVvxsnmiIfe"
    | .bash => "abefhkmnptuvxBCEHPTcs"
  String.ofList (order.toList.filter fun c => ((Switch.letters s.dialect).lookup c).any s.on)

/-- What a parameter holds. -/
def parameter (s : State) (name : String) : Held :=
  match name with
  | "@" => .all s.args false
  | "*" => .all s.args true
  | "#" => .one (toString s.args.length)
  | "?" => .one (toString s.status)
  | "$" => .one "4242"
  | "!" => s.lastStarted.elim .nothing fun number => .one (toString number)
  | "-" => .one s.optionLetters
  | "0" => .one s.name
  | _ =>
    match name.toNat? with
    | some n => (s.args[n - 1]?).elim .nothing .one
    | none =>
      match s.value? (s.meant name 10) with
      | some (.text text) => .one text
      | some (.items items) => (items.lookup 0).elim .nothing .one
      | some (.table items) => (items.lookup "0").elim .nothing .one
      | none => .nothing

/-- The state with the variables of a function that ends as they were before it. -/
def leaveScope (s : State) : State :=
  match s.scopes with
  | [] => s
  | saved :: scopes =>
    let vars := saved.foldl (fun vars (name, old) =>
      match old with
      | some v => putPair name v vars
      | none => vars.filter (·.1 ≠ name)) s.vars
    { s with vars, scopes }

/-- The state with a variable saved, if the function that runs has not saved it yet. -/
def hide (s : State) (name : String) : State :=
  match s.scopes with
  | [] => s
  | saved :: scopes =>
    if (saved.lookup name).isSome then s
    else { s with scopes := ((name, s.lookup name) :: saved) :: scopes }

end State

namespace Act

/-- Does an action in a scope of its own, whose variables are as before when it ends. -/
def inScope {α : Type} (action : Act α) : Act α := do
  modify fun s => { s with scopes := [] :: s.scopes }
  let outcome ← observe action
  modify State.leaveScope
  conclude outcome

/-- Refuses to set a variable that is only to be read. -/
def refuseReadonly {α : Type} (name : String) : Act α := do
  match (← get).dialect with
  | .dash => fail (name ++ ": is read only")
  | .bash => fail (name ++ ": readonly variable")

/-- The text in the letter case that a variable wants. -/
def inCase (v : Variable) (text : String) : String :=
  match v.raises with
  | some true => text.map Char.toUpper
  | some false => text.map Char.toLower
  | none => text

/-- The value of a variable in an expression. -/
def numberOf (evaluate : String → Act Int) (text : String) : Act Int := do
  match (← get).dialect with
  | .dash =>
    match Sum.plain? text with
    | some n => pure n
    | none => fail ("Illegal number: " ++ text)
  | .bash => evaluate text

/-- Items with one set, in order of their numbers. -/
def putItem (n : Nat) (text : String) : List (Nat × String) → List (Nat × String)
  | [] => [(n, text)]
  | (m, old) :: rest =>
    if n = m then (n, text) :: rest
    else if n < m then (n, text) :: (m, old) :: rest
    else (m, old) :: putItem n text rest

/-- The items of a value as a numbered list. -/
def itemsOf : Option Value → List (Nat × String)
  | some (.items items) => items
  | some (.text text) => [(0, text)]
  | some (.table items) => (items.map (·.2)).zipIdx.map fun (text, n) => (n, text)
  | none => []

/-- The number of the item that a number means; numbers below zero count from the end. -/
def placeIn (items : List (Nat × String)) (n : Int) : Option Nat :=
  if 0 ≤ n then some n.toNat
  else
    let top : Int := (((items.map (·.1)).getLast?.map (· + 1)).getD 0 : Nat)
    if 0 ≤ top + n then some (top + n).toNat else none

/-- Gives up for a parameter that is not set. -/
def refuseUnset {α : Type} (name words : String) : Act α := do
  let s ← get
  complain (name ++ ": " ++ words)
  match s.dialect with
  | .dash =>
    finish 2
    throw .failure
  | .bash =>
    finish (if s.on "command" && !s.isSubshell && !s.on "errexit" then 127 else 1)
    throw .exit

/-- Evaluates an expression that is given as a text, through as many variables as the fuel
allows. -/
def evaluate : Nat → String → Act Int
  | 0, text =>
    fail (text ++ ": expression recursion level exceeded (error token is \"" ++ text ++ "\")")
  | fuel + 1, text => do value fuel text (Sum.read (← get).dialect text)
where
  /-- Refuses an expression that stands in a text. -/
  refuse (text : String) (refusal : Sum.Refusal) : Act Int := do
    fail (refusal.message (← get).dialect text)
  /-- Passes over an expression that has no say in the value, but may not be flawed. -/
  pass (text : String) (sum : Sum) (n : Int) : Act Int := do
    match sum.flaw? with
    | some refusal => refuse text refusal
    | none => pure n
  /-- The text of a variable or of an item. -/
  textOf (fuel : Nat) (name : String) (key : Option String) : Act (Option String) := do
    let s ← get
    match key with
    | none =>
      match s.parameter name with
      | .nothing => pure none
      | held => pure (some held.text)
    | some key =>
      match s.value? (s.meant name 10) with
      | some (.table items) => pure (items.lookup key)
      | held => do
        let items := itemsOf held
        let n ← evaluate fuel key
        pure ((placeIn items n).bind fun n => items.lookup n)
  /-- Sets a variable or an item to a number. -/
  store (fuel : Nat) (name : String) (key : Option String) (n : Int) : Act Unit := do
    let s ← get
    let name := s.meant name 10
    if (s.lookup name).any (·.readonly) then refuseReadonly name
    let old := (s.lookup name).getD {}
    match key, old.value with
    | some key, some (.table items) =>
      modify fun s =>
        s.put name { old with value := some (.table (putPair key (toString n) items)) }
    | some key, held => do
      let items := itemsOf held
      let place := placeIn items (← evaluate fuel key)
      modify fun s =>
        s.put name { old with value := some (.items (putItem (place.getD 0) (toString n) items)) }
    | none, some (.items items) =>
      modify fun s => s.put name { old with value := some (.items (putItem 0 (toString n) items)) }
    | none, _ => modify fun s => s.set name (toString n)
  /-- The number that a variable or an item holds. -/
  held (fuel : Nat) (name : String) (key : Option String) : Act Int := do
    match ← textOf fuel name key with
    | none =>
      let s ← get
      if s.on "nounset" && s.dialect = .bash then refuseUnset name "unbound variable"
      else pure 0
    | some text => numberOf (evaluate fuel) text
  /-- The value of an expression, which stands in the given text. -/
  value (fuel : Nat) (text : String) : Sum → Act Int
    | .number n => pure n
    | .variable name key => held fuel name key
    | .unary op operand => do pure (Sum.applyOne op (← value fuel text operand))
    | .binary "&&" left right _ => do
      if (← value fuel text left) = 0 then pass text right 0
      else pure (Sum.ofBool ((← value fuel text right) ≠ 0))
    | .binary "||" left right _ => do
      if (← value fuel text left) ≠ 0 then pass text right 1
      else pure (Sum.ofBool ((← value fuel text right) ≠ 0))
    | .binary op left right near => do
      let a ← value fuel text left
      let b ← value fuel text right
      match Sum.apply op a b with
      | .ok n => pure n
      | .error fault => refuse text ⟨fault, near⟩
    | .choice condition yes no => do
      if (← value fuel text condition) ≠ 0 then
        let n ← value fuel text yes
        pass text no n
      else
        let _ ← pass text yes 0
        value fuel text no
    | .assign op name key right near => do
      let isFirst := (← get).dialect = .bash
      let before ← if op.isEmpty || !isFirst then pure 0 else held fuel name key
      let n ← value fuel text right
      let n ← if op.isEmpty then pure n else do
        let before ← if isFirst then pure before else held fuel name key
        match Sum.apply op before n with
        | .ok n => pure n
        | .error fault => refuse text ⟨fault, near⟩
      store fuel name key n
      pure n
    | .step name key amount after => do
      let n ← held fuel name key
      store fuel name key (Sum.wrap (n + amount))
      pure (if after then n else Sum.wrap (n + amount))
    | .both first second => do
      let _ ← value fuel text first
      value fuel text second
    | .flawed refusal => refuse text refusal

/-- The depth to which expressions in the values of variables are followed. -/
def maxFollowed : Nat := 60

/-- The value of an arithmetic expression. -/
def arithmetic (text : String) : Act Int :=
  evaluate maxFollowed text

/-- What else happens when a variable is set. -/
def afterSetting (name : String) : Act Unit := do
  if name = "OPTIND" then
    let s ← get
    let text := (s.text? name).getD ""
    let index ← match s.dialect with
      | .dash =>
        match Text.count? text.toList with
        | some n => pure n
        | none => fail ("Illegal number: " ++ text)
      | .bash => pure (text.toNat?.getD 1)
    modify fun s => { s with optionPlace := 0, optionIndex := max 1 index }
  else if name = "PATH" then modify fun s => { s with found := [] }

/-- Sets a variable to a text. -/
def assign (name text : String) (exported : Bool := false) : Act Unit := do
  let s ← get
  let name := s.meant name 10
  let old := (s.lookup name).getD {}
  if old.readonly then refuseReadonly name
  let text ← if old.integer then do pure (toString (← arithmetic text)) else pure (inCase old text)
  match old.value with
  | some (.items items) =>
    modify fun s => s.put name { old with
      value := some (.items (putItem 0 text items)), exported := old.exported || exported }
  | some (.table items) =>
    modify fun s => s.put name { old with
      value := some (.table (putPair "0" text items)), exported := old.exported || exported }
  | _ => modify fun s => s.set name text exported
  afterSetting name

/-- Adds a text at the end of a variable, or a number to one that holds numbers. -/
def append (name text : String) (exported : Bool := false) : Act Unit := do
  let s ← get
  let name := s.meant name 10
  let old := (s.lookup name).getD {}
  let before := (s.parameter name).text
  if old.integer then
    let sum ← arithmetic ("(" ++ (if before.isEmpty then "0" else before) ++ ")+(" ++ text ++ ")")
    assign name (toString sum) exported
  else assign name (before ++ text) exported

/-- Sets an item of a list. -/
def assignItem (name key text : String) (appends : Bool) : Act Unit := do
  let s ← get
  let name := s.meant name 10
  let old := (s.lookup name).getD {}
  if old.readonly then refuseReadonly name
  match old.value with
  | some (.table items) =>
    let before := if appends then (items.lookup key).getD "" else ""
    let text := before ++ inCase old text
    modify fun s => s.put name { old with value := some (.table (putPair key text items)) }
  | held =>
    let items := itemsOf held
    match placeIn items (← arithmetic key) with
    | none => fail (name ++ "[" ++ key ++ "]: bad array subscript")
    | some n =>
      let before := if appends then (items.lookup n).getD "" else ""
      let text ← if old.integer then do pure (toString (← arithmetic text))
        else pure (before ++ inCase old text)
      modify fun s => s.put name { old with value := some (.items (putItem n text items)) }

/-- Sets a list to some items, each with its key if it is given. -/
def assignList (name : String) (appends : Bool) (items : List (Option String × String)) :
    Act Unit := do
  let s ← get
  let name := s.meant name 10
  let old := (s.lookup name).getD {}
  if old.readonly then refuseReadonly name
  match old.value with
  | some (.table before) =>
    let pairs := items.filterMap fun (key, text) => key.map fun key => (key, text)
    let table := pairs.foldl (fun table (key, text) => putPair key text table)
      (if appends then before else [])
    modify fun s => s.put name { old with value := some (.table table) }
  | held =>
    let start := if appends then itemsOf held else []
    modify fun s => s.put name { old with value := some (.items start) }
    let first := ((start.map (·.1)).getLast?.map (· + 1)).getD 0
    let _ ← items.foldlM (fun (next : Nat) (key, text) => do
      let place ← match key with
        | some key => do
          match placeIn start (← arithmetic key) with
          | some n => pure n
          | none => fail (name ++ "[" ++ key ++ "]: bad array subscript")
        | none => pure next
      let v := ((← get).lookup name).getD {}
      let text ← if old.integer then do pure (toString (← arithmetic text))
        else pure (inCase old text)
      modify fun s =>
        s.put name { v with value := some (.items (putItem place text (itemsOf v.value))) }
      pure (place + 1)) first

/-- Takes a variable away. -/
def remove (name : String) : Act Unit := do
  let s ← get
  let name := s.meant name 10
  if (s.lookup name).any (·.readonly) then
    match s.dialect with
    | .dash => refuseReadonly name
    | .bash =>
      complainOf "unset" (name ++ ": cannot unset: readonly variable")
      finish 1
  else
    modify fun s => s.unset name
    afterSetting name

end Act

end RemoteAttach.Shell
