/-! Options of programs as the system reads them: letters after a hyphen, of which some take a
value, and names after two hyphens, which may be cut short where that is not ambiguous. -/

namespace RemoteAttach.Tool

/-- Whether an option takes a value. -/
inductive Takes where
  | nothing
  | value
  /-- A value that is part of the same argument, if there is one. -/
  | perhaps
  deriving DecidableEq, Repr

/-- The options of a program. -/
structure Options where
  /-- The letters; one colon follows those that take a value, and two those that perhaps do. -/
  letters : String
  /-- The names, each with the letter that it stands for and whether it takes a value. -/
  names : List (String × Char × Takes) := []
  /-- The first operand ends the options. -/
  stops : Bool := false

/-- The options that have been found, each with its value, and the operands. -/
structure Found where
  options : List (Char × String) := []
  operands : List String := []

namespace Options

/-- Whether the option of a letter takes a value, if there is one. -/
def takes? (o : Options) (c : Char) : Option Takes :=
  if c = ':' then none
  else
    match o.letters.toList.dropWhile (· ≠ c) with
    | _ :: ':' :: ':' :: _ => some .perhaps
    | _ :: ':' :: _ => some .value
    | _ :: _ => some .nothing
    | [] => none

/-- The options in an argument after its hyphen, whether the value of the last one is the argument
after it, and what is wrong after them. -/
def cluster (o : Options) (next : Option String) :
    List Char → List (Char × String) × Bool × Option String
  | [] => ([], false, none)
  | c :: rest =>
    match o.takes? c with
    | none => ([], false, some ("invalid option -- '" ++ c.toString ++ "'"))
    | some .nothing =>
      let (found, used, fault) := o.cluster next rest
      ((c, "") :: found, used, fault)
    | some .perhaps => ([(c, String.ofList rest)], false, none)
    | some .value =>
      match rest, next with
      | _ :: _, _ => ([(c, String.ofList rest)], false, none)
      | [], some value => ([(c, value)], true, none)
      | [], none => ([], false, some ("option requires an argument -- '" ++ c.toString ++ "'"))

/-- The option that an argument names, and whether its value is the argument after it. -/
def named (o : Options) (next : Option String) (text : String) :
    Except String ((Char × String) × Bool) :=
  let name := String.ofList (text.toList.takeWhile (· ≠ '='))
  let rest := text.toList.drop name.length
  let fits := match o.names.filter (·.1 = name) with
    | [] => o.names.filter fun (option : String × Char × Takes) => option.1.startsWith name
    | exact => exact
  let letters := (fits.map fun (_, c, takes) => (c, takes)).eraseDups
  match fits, letters with
  | (full, c, takes) :: _, [_] =>
    match takes, rest, next with
    | .nothing, [], _ => .ok ((c, ""), false)
    | .nothing, _ :: _, _ => .error ("option '--" ++ full ++ "' doesn't allow an argument")
    | _, _ :: value, _ => .ok ((c, String.ofList value), false)
    | .perhaps, [], _ => .ok ((c, ""), false)
    | .value, [], some value => .ok ((c, value), true)
    | .value, [], none => .error ("option '--" ++ full ++ "' requires an argument")
  | [], _ => .error ("unrecognized option '--" ++ text ++ "'")
  | _, _ =>
    .error ("option '--" ++ text ++ "' is ambiguous; possibilities:" ++
      String.join (fits.map fun (full, _) => " '--" ++ full ++ "'"))

/-- The options and operands among some arguments, of which the first may be skipped, up to what is
wrong with them. -/
def scan (o : Options) (skipped : Bool) : List String → Found × Option String
  | [] => ({}, none)
  | arg :: rest =>
    if skipped then o.scan false rest
    else
      let after := fun (options : List (Char × String)) (used : Bool) =>
        let (found, fault) := o.scan used rest
        ({ found with options := options ++ found.options }, fault)
      match arg.toList with
      | ['-', '-'] => ({ operands := rest }, none)
      | '-' :: '-' :: name =>
        match o.named rest.head? (String.ofList name) with
        | .ok (option, used) => after [option] used
        | .error text => ({}, some text)
      | '-' :: c :: more =>
        match o.cluster rest.head? (c :: more) with
        | (options, used, none) => after options used
        | (options, _, some text) => ({ options }, some text)
      | _ =>
        if o.stops then ({ operands := arg :: rest }, none)
        else
          let (found, fault) := o.scan false rest
          ({ found with operands := arg :: found.operands }, fault)

/-- The options and operands among some arguments. -/
def read (o : Options) (args : List String) : Except String Found :=
  match o.scan false args with
  | (found, none) => .ok found
  | (_, some text) => .error text

end Options

namespace Found

/-- The option of a letter is there. -/
def has (f : Found) (c : Char) : Bool :=
  f.options.any (·.1 = c)

/-- The value of the last option of a letter. -/
def value? (f : Found) (c : Char) : Option String :=
  ((f.options.filter (·.1 = c)).getLast?).map (·.2)

/-- The values of all options of a letter. -/
def values (f : Found) (c : Char) : List String :=
  (f.options.filter (·.1 = c)).map (·.2)

/-- The last option among those of some letters. -/
def last? (f : Found) (letters : List Char) : Option Char :=
  ((f.options.filter fun (c, _) => letters.contains c).getLast?).map (·.1)

end Found

end RemoteAttach.Tool
