import RemoteAttach.Tool.Basic

/-! The program that puts the arguments of a script into one form: options first, each an argument
of its own with its value behind it, and then the operands. -/

namespace RemoteAttach.Tool.Arguments

open Shell Act

/-- What is read from arguments. -/
inductive Item where
  /-- What is wrong with an option. -/
  | wrong (words : String)
  /-- An option as it is written, and its value if it may have one. -/
  | option (text : String) (value : Option String)
  | operand (text : String)

/-- The options in an argument after its hyphen, and whether the value of the last one is the
argument after it. -/
def cluster (o : Options) (next : Option String) : List Char → List Item × Bool
  | [] => ([], false)
  | c :: rest =>
    let text := "-" ++ c.toString
    match o.takes? c with
    | none =>
      let (items, used) := cluster o next rest
      (.wrong ("invalid option -- '" ++ c.toString ++ "'") :: items, used)
    | some .nothing =>
      let (items, used) := cluster o next rest
      (.option text none :: items, used)
    | some .perhaps => ([.option text (some (String.ofList rest))], false)
    | some .value =>
      match rest, next with
      | _ :: _, _ => ([.option text (some (String.ofList rest))], false)
      | [], some value => ([.option text (some value)], true)
      | [], none =>
        ([.wrong ("option requires an argument -- '" ++ c.toString ++ "'")], false)

/-- The option that an argument names, and whether its value is the argument after it. -/
def named (o : Options) (next : Option String) (text : String) : Item × Bool :=
  match o.named next text with
  | .error words => (.wrong words, false)
  | .ok ((c, value), used) =>
    match o.names.find? fun (_, letter, _) => letter = c with
    | some (full, _, takes) =>
      (.option ("--" ++ full) (if takes = .nothing then none else some value), used)
    | none => (.wrong text, false)

/-- What some arguments hold, of which the first may be skipped. -/
def items (o : Options) (skipped : Bool) : List String → List Item
  | [] => []
  | arg :: rest =>
    if skipped then items o false rest
    else
      match arg.toList with
      | ['-', '-'] => rest.map .operand
      | '-' :: '-' :: name =>
        let (item, used) := named o rest.head? (String.ofList name)
        item :: items o used rest
      | '-' :: c :: more =>
        let (found, used) := cluster o rest.head? (c :: more)
        found ++ items o used rest
      | _ =>
        if o.stops then (arg :: rest).map .operand else .operand arg :: items o false rest

/-- A text between single quotes. -/
def quoted (text : String) : String :=
  "'" ++ String.ofList (text.toList.flatMap fun c =>
    if c = '\'' then ['\'', '\\', '\'', '\''] else [c]) ++ "'"

/-- The line in which the items are written. -/
def line (quote : String → String) (all : List Item) : String :=
  let options := all.map fun item =>
    match item with
    | .option text value => " " ++ text ++ (value.elim "" fun value => " " ++ quote value)
    | _ => ""
  let operands := all.map fun item =>
    match item with
    | .operand text => " " ++ quote text
    | _ => ""
  String.join options ++ " --" ++ String.join operands

/-- The names in a list, each with a character that stands for it and whether it takes a value. -/
def namesOf (texts : List String) : List (String × Char × Takes) :=
  let words := texts.flatMap fun text =>
    ((text.toList.splitBy fun a b => (a = ',' || a = ' ') = (b = ',' || b = ' ')).filter
      fun part => !part.any fun c => c = ',' || c = ' ')
  words.zipIdx.map fun (word, n) =>
    let name := (word.reverse.dropWhile (· = ':')).reverse
    let takes := match word.length - name.length with
      | 0 => Takes.nothing
      | 1 => .value
      | _ => .perhaps
    (String.ofList name, Char.ofNat (0x1000 + n), takes)

/-- Puts arguments into one form. -/
def run (args : List String) : Act Unit := do
  let isShort := args.head?.any fun arg => !arg.startsWith "-"
  let f ← if isShort then pure { operands := args }
    else options {
      letters := "ao:l:n:qQs:Tu"
      names := [("alternative", 'a', .nothing), ("options", 'o', .value),
        ("longoptions", 'l', .value), ("name", 'n', .value), ("quiet", 'q', .nothing),
        ("quiet-output", 'Q', .nothing), ("shell", 's', .value), ("test", 'T', .nothing),
        ("unquoted", 'u', .nothing)]
      stops := true } args 2
  if f.has 'T' then
    finish 4
    throw .exit
  let (letters, given) ← match f.value? 'o', f.operands with
    | some letters, given => pure (letters, given)
    | none, letters :: given => pure (letters, given)
    | none, [] => misuse "missing optstring argument" 2
  let o : Options := {
    letters := String.ofList (letters.toList.dropWhile fun c => c = '+' || c = '-')
    names := namesOf (f.values 'l'), stops := letters.startsWith "+" }
  let all := items o false given
  let name := (f.value? 'n').getD (← get).name
  forAll all fun item => do
    match item with
    | .wrong words =>
      if !f.has 'q' then warn (name ++ ": " ++ words ++ "\n")
      finish 1
    | _ => pure ()
  if !f.has 'Q' then
    writeLines [line (if isShort || f.has 'u' then id else quoted) all]

end RemoteAttach.Tool.Arguments
