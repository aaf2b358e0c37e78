import RemoteAttach.Shell.Builtin.Options

/-! The commands of a shell for the folder it is in, and for the bits that new files lack. A shell
knows its folder by the text that led there, which may pass through links. -/

namespace RemoteAttach.Shell.Builtin

open Act

/-- The names on a way, without points; two points take the name before them away. -/
def straight (names : List String) : List String :=
  names.foldl (fun way name =>
    if name = "" || name = "." then way
    else if name = ".." then way.dropLast
    else way ++ [name]) []

/-- The text of the folder that a text leads to from another one. -/
def joinedText (here text : String) : String :=
  let whole := if text.startsWith "/" then text else here ++ "/" ++ text
  let double := whole.startsWith "//" && !whole.startsWith "///"
  let body := Path.text (straight (Path.names whole))
  (if double then "/" else "") ++ (if body.isEmpty then "/" else body)

/-- The folder where a text leads to, or why it cannot be entered. -/
def folderAt (s : State) (text : String) : Except FileError Path := do
  let path ← s.files.resolve s.folder text
  match s.files.lookup path with
  | some (.folder _) => .ok path
  | some _ => .error .notDirectory
  | none => .error .notFound

/-- The text of a path; that of the root is not empty. -/
def pathText (path : Path) : String :=
  if path.isEmpty then "/" else Path.text path

/-- Enters a folder, by the way that its text tells or by the one that really leads there. -/
def enter (text : String) (real : Bool) : Act (Except FileError Unit) := do
  let s ← get
  let asked := if text.isEmpty then "." else text
  match folderAt s asked with
  | .error e => pure (.error e)
  | .ok path =>
    let told := joinedText s.folderText asked
    let target := if real then .ok (path, pathText path)
      else (folderAt s told).map fun path => (path, told)
    match target with
    | .error e => pure (.error e)
    | .ok (path, folderText) =>
      set { s with folder := path, folderText }
      assign "OLDPWD" s.folderText
      assign "PWD" folderText
      pure (.ok ())

/-- The last of two options of a command. -/
def lastOf (found : List (Char × String)) (letter other : Char) : Bool :=
  ((found.filter fun (c, _) => c = letter || c = other).getLast?.map (·.1)) == some letter

/-- Enters a folder that is looked for in others as well. -/
def cd (args : List String) : Act Unit := do
  let s ← get
  let (found, args) ← options "cd" (if s.dialect = .dash then "LP" else "LPe@") args
  let real := lastOf found 'P' 'L'
  if s.dialect = .bash && 1 < args.length then refuse "cd" "too many arguments" 1
  let (target, shown) ← match args.head? with
    | some "-" =>
      match s.text? "OLDPWD", s.dialect with
      | some text, _ => pure (text, true)
      | none, .dash => pure ("", true)
      | none, .bash => refuse "cd" "OLDPWD not set" 1
    | some text => pure (text, false)
    | none =>
      match s.text? "HOME", s.dialect with
      | some text, _ => pure (text, false)
      | none, .dash => pure ("", false)
      | none, .bash => refuse "cd" "HOME not set" 1
  let near := ["/", "./", "../"].any (fun start => target.startsWith start) || target = "." ||
    target = ".."
  let starts := match s.text? "CDPATH" with
    | some text =>
      if near || args.head? == some "-" then []
      else (Text.pieces [':'] text.toList).map String.ofList
    | none => []
  let candidate := (starts.filter (!·.isEmpty)).map (· ++ "/" ++ target) |>.find? fun text =>
    (folderAt s text).isOk
  let shown := shown || candidate.isSome
  match ← enter (candidate.getD target) real with
  | .ok () =>
    if s.dialect = .bash && shown && target.isEmpty then say "cd" ['\n']
    else if shown then say "cd" ((← get).folderText ++ "\n").toList else finish 0
  | .error e =>
    match s.dialect with
    | .dash => refuse "cd" ("can't cd to " ++ target)
    | .bash => refuse "cd" (target ++ ": " ++ e.reason) 1

/-- Tells the folder. -/
def pwd (args : List String) : Act Unit := do
  let (found, _) ← options "pwd" "LP" args
  let s ← get
  let text := if lastOf found 'P' 'L' then pathText s.folder else s.folderText
  say "pwd" (text ++ "\n").toList

/-- The folder stack as it is shown. -/
def stackText (s : State) (long : Bool) : List String :=
  (s.folderText :: s.folderStack).map fun text =>
    match s.text? "HOME" with
    | some home =>
      if long || home.isEmpty then text
      else if text = home then "~"
      else if text.startsWith (home ++ "/") then
        "~" ++ String.ofList (text.toList.drop home.length)
      else text
    | none => text

/-- Tells the folders that have been put aside. -/
def dirs (args : List String) : Act Unit := do
  let (found, _) ← options "dirs" "clpv" args
  if has found 'c' then
    modify fun s => { s with folderStack := [] }
    finish 0
  else
    let shown := stackText (← get) (has found 'l')
    if has found 'v' then
      let lines := (shown.zip (List.range shown.length)).map fun (text, n) =>
        (if n < 10 then " " else "") ++ toString n ++ "  " ++ text
      say "dirs" (unlines lines)
    else if has found 'p' then say "dirs" (unlines shown)
    else say "dirs" (unlines [String.intercalate " " shown])

/-- Puts the folder aside and enters another one. -/
def pushd (args : List String) : Act Unit := do
  let s ← get
  let (target, stack) ← match args, s.folderStack with
    | [], [] => refuse "pushd" "no other directory" 1
    | [], top :: rest => pure (top, s.folderText :: rest)
    | text :: _, stack => pure (text, s.folderText :: stack)
  match ← enter target false with
  | .error e => refuse "pushd" (target ++ ": " ++ e.reason) 1
  | .ok () =>
    modify fun s => { s with folderStack := stack }
    dirs []

/-- Goes back to the folder that was put aside last. -/
def popd (_args : List String) : Act Unit := do
  match (← get).folderStack with
  | [] => refuse "popd" "directory stack empty" 1
  | top :: rest =>
    match ← enter top false with
    | .error e => refuse "popd" (top ++ ": " ++ e.reason) 1
    | .ok () =>
      modify fun s => { s with folderStack := rest }
      dirs []

/-- The letters of three bits. -/
def bitLetters (bits : Nat) : String :=
  (if bits &&& 4 ≠ 0 then "r" else "") ++ (if bits &&& 2 ≠ 0 then "w" else "") ++
    (if bits &&& 1 ≠ 0 then "x" else "")

/-- Bits that are allowed, in the form of letters. -/
def modeText (bits : Nat) : String :=
  "u=" ++ bitLetters (bits / 64 % 8) ++ ",g=" ++ bitLetters (bits / 8 % 8) ++ ",o=" ++
    bitLetters (bits % 8)

/-- Bits in the form of four octal digits. -/
def octalText (bits : Nat) : String :=
  let digits := Nat.toDigits 8 bits
  String.ofList (List.replicate (4 - digits.length) '0' ++ digits)

/-- The bits of a clause of a mode, whose letters say for whom and how they change what is allowed;
the error is a character that cannot stand there, and whether an operator was wanted. -/
def clause (bits : Nat) (text : List Char) : Except (Char × Bool) Nat := do
  let who := text.takeWhile fun c => c = 'u' || c = 'g' || c = 'o' || c = 'a'
  let rest := text.drop who.length
  let scale := fun (c : Char) => match c with
    | 'u' => 0o700
    | 'g' => 0o070
    | 'o' => 0o007
    | _ => 0o777
  let range := if who.isEmpty then 0o777 else who.foldl (fun n c => n ||| scale c) 0
  let value := fun (c : Char) => match c with
    | 'r' => some 0o444
    | 'w' => some 0o222
    | 'x' | 'X' => some 0o111
    | 's' | 't' => some 0
    | _ => none
  let steps := fun (bits : Nat) (op : Char) (letters : List Char) =>
    match letters.find? fun c => (value c).isNone with
    | some c => .error (c, false)
    | none =>
      let values := letters.filterMap value
      let wanted := values.foldl (· ||| ·) 0 &&& range
      match op with
      | '+' => .ok (bits ||| wanted)
      | '-' => .ok (bits &&& (0o777 ^^^ wanted))
      | _ => .ok ((bits &&& (0o777 ^^^ range)) ||| wanted)
  match rest with
  | [] => .error ('\x00', true)
  | op :: letters =>
    if op = '+' || op = '-' || op = '=' then steps bits op letters else .error (op, true)

/-- The bits that are allowed after a mode in letters. -/
def modeBits (bits : Nat) (text : String) : Except (Char × Bool) Nat :=
  (Text.pieces [','] text.toList).foldlM clause bits

/-- Tells or changes the bits that new files lack. -/
def umask (args : List String) : Act Unit := do
  let s ← get
  let (found, args) ← options "umask" (if s.dialect = .dash then "S" else "pS") args
  match args.head? with
  | none =>
    let text := if has found 'S' then modeText (0o777 ^^^ s.mask) else octalText s.mask
    let start := if has found 'p' then
      (if has found 'S' then "umask -S " else "umask ") else ""
    say "umask" (start ++ text ++ "\n").toList
  | some text =>
    if text.toList.head?.any Char.isDigit then
      match text.toList.all (fun c => '0' ≤ c && c ≤ '7'), Text.digitsAfter 8 0 text.toList with
      | true, some bits =>
        modify fun s => { s with mask := bits &&& 0o777 }
        finish 0
      | _, _ =>
        match s.dialect with
        | .dash => refuse "umask" ("Illegal number: " ++ text)
        | .bash => refuse "umask" (text ++ ": octal number out of range") 1
    else
      match modeBits (0o777 ^^^ s.mask) text with
      | .ok bits =>
        modify fun s => { s with mask := 0o777 ^^^ bits }
        finish 0
      | .error (c, isOperator) =>
        match s.dialect with
        | .dash => refuse "umask" ("Illegal mode: " ++ text)
        | .bash =>
          let wanted := if isOperator then "operator" else "character"
          refuse "umask" ("`" ++ c.toString ++ "': invalid symbolic mode " ++ wanted) 1

end RemoteAttach.Shell.Builtin
