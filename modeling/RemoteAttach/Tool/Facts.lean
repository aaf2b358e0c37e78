import RemoteAttach.Tool.Tree
import RemoteAttach.Tool.Version

/-! Programs that show what is known about files: their names in folders, and their size, times,
owners and permissions. -/

namespace RemoteAttach.Tool

open Shell Act

/-- How a name is shown. -/
inductive NameStyle where
  | plain
  /-- With a question mark for what cannot be printed. -/
  | masked
  /-- In single quotes where a shell needs them, or `always`, and perhaps with dollar quotes around
  what cannot be printed. -/
  | shell (always escapes : Bool)
  /-- In double quotes, with backslashes. -/
  | quoted
  /-- In double quotes where there are backslashes. -/
  | perhapsQuoted
  /-- With backslashes. -/
  | escaped
  /-- In single quotes, with backslashes. -/
  | cited

namespace NameStyle

/-- The styles by their names. -/
def table : List (String × NameStyle) :=
  [("literal", .plain), ("shell", .shell false false), ("shell-always", .shell true false),
    ("shell-escape", .shell false true), ("shell-escape-always", .shell true true),
    ("c", .quoted), ("c-maybe", .perhapsQuoted), ("escape", .escaped), ("locale", .cited),
    ("clocale", .quoted)]

/-- A character after a backslash where it needs one. -/
def escape (others : List Char) (c : Char) : List Char :=
  if others.contains c then ['\\', c]
  else if isPrintable c then [c]
  else Tool.escape c

/-- A name in a style. -/
def text (style : NameStyle) (name : String) : String :=
  let chars := name.toList
  let within := fun (others : List Char) => String.ofList (chars.flatMap (escape others))
  match style with
  | plain => name
  | masked => String.ofList (chars.map fun c => if isPrintable c then c else '?')
  | shell always true => if always then inQuotes name else shown name
  | shell always false =>
    let isBare := isPlainName (chars.map fun c =>
      if isPrintable c || ['\n', '\r', '\t'].contains c then c else 'a')
    if isBare && !always then name
    else if chars.contains '\'' && chars.all isPrintable then inQuotes name
    else "'" ++ String.ofList (chars.flatMap fun c =>
      if c = '\'' then ['\'', '\\', '\'', '\''] else [c]) ++ "'"
  | quoted => "\"" ++ within ['"', '\\'] ++ "\""
  | perhapsQuoted =>
    let inside := within ['"', '\\']
    if chars.all fun c => isPrintable c && c ≠ '"' then name else "\"" ++ inside ++ "\""
  | escaped => within [' ', '\\']
  | cited => "'" ++ within ['\'', '\\'] ++ "'"

end NameStyle

/-- How files are listed. -/
structure ListForm where
  hidden : Bool
  /-- The folder itself and the one above it are listed too. -/
  selves : Bool
  long : Bool
  deep : Bool
  /-- Folders are listed like files. -/
  plain : Bool
  follows : Bool
  /-- The letter that says what is put behind a name. -/
  marks : Option Char
  sorts : Char
  reverse : Bool
  foldersFirst : Bool
  blocks : Bool
  owner : Bool
  group : Bool
  numbers : Bool
  human : Bool
  naming : NameStyle
  /-- Names have the colour of what they stand for. -/
  coloured : Bool
  /-- The colours that are told, each with the key of what has it. -/
  colours : List (String × String)
  /-- How names are laid out: in a line, in columns, or in rows. -/
  layout : Option Char
  /-- The width of the output, which is zero if there is no bound. -/
  width : Nat
  /-- The distance of tabulators, which is zero if there are none. -/
  tab : Nat
  /-- What ends a line. -/
  ending : Char
  /-- The forms of a recent moment and of another one. -/
  times : String × String
  ignored : List (List Glyph)

/-- A file in a listing. -/
structure Listed where
  name : String
  facts : FileFacts
  /-- Where it leads to, if it is a link. -/
  target : Option String
  /-- What is known of where it leads to. -/
  behind : Option FileFacts

/-- The key of the colour of a file, and the colour that it usually has. -/
def colourKey (facts : FileFacts) : String × String :=
  match facts.kind with
  | .folder =>
    match facts.mode &&& 0o1002 with
    | 0o1002 => ("tw", "30;42")
    | 0o0002 => ("ow", "34;42")
    | 0o1000 => ("st", "37;44")
    | _ => ("di", "01;34")
  | .link => ("ln", "01;36")
  | .pipe => ("pi", "33")
  | .device => ("cd", "01;33")
  | .regular =>
    if facts.mode &&& 0o4000 ≠ 0 then ("su", "37;41")
    else if facts.mode &&& 0o2000 ≠ 0 then ("sg", "30;43")
    else if facts.mode &&& 0o111 ≠ 0 then ("ex", "01;32")
    else ("fi", "")

/-- The colour of a file: the one that is told for its kind or for the end of its name. -/
def ListForm.colour? (form : ListForm) (facts : FileFacts) (name : String) : Option String :=
  let (key, usual) := colourKey facts
  let byEnding := (form.colours.filter fun (key, _) =>
    key.startsWith "*" && name.endsWith (String.ofList (key.toList.drop 1))).getLast?.map (·.2)
  let code := match key, byEnding with
    | "fi", some code => code
    | _, _ => (form.colours.lookup key).getD usual
  if code.isEmpty || code = "0" || code = "00" || code = "target" then none else some code

/-- A name in the colour of what it stands for. -/
def ListForm.inColour (form : ListForm) (facts : FileFacts) (name : String) : String :=
  match (if form.coloured then form.colour? facts name else none) with
  | some code => "\x1b[" ++ code ++ "m" ++ name ++ "\x1b[0m"
  | none => name

/-- The moment of the last change of a file. -/
def changed (s : State) (facts : FileFacts) : Int :=
  if facts.age ≥ FileFacts.systemAge then 0 else s.now - Int.fdiv facts.age Entry.perSecond

/-- The letter of a kind of file. -/
def kindLetter : FileKind → Char
  | .regular => '-'
  | .folder => 'd'
  | .link => 'l'
  | .pipe => 'p'
  | .device => 'c'

/-- The name of a kind of file. -/
def kindName (facts : FileFacts) : String :=
  match facts.kind with
  | .regular => if facts.size = 0 then "regular empty file" else "regular file"
  | .folder => "directory"
  | .link => "symbolic link"
  | .pipe => "fifo"
  | .device => "character special file"

/-- The number of blocks of 1024 characters that a file takes. -/
def blockCount (facts : FileFacts) : Nat :=
  match facts.kind with
  | .regular => (facts.size + 4095) / 4096 * 4
  | .folder => 4
  | _ => 0

/-- A size with a unit, rounded up. -/
def humanSize (size : Nat) : String :=
  go 5 size ["", "K", "M", "G", "T"]
where
  /-- Goes on to larger units. -/
  go : Nat → Nat → List String → String
    | fuel + 1, size, title :: rest =>
      if size < 1024 || rest.isEmpty then toString size ++ title
      else
        let tenths := (size * 10 + 1023) / 1024
        if tenths < 100 then
          toString (tenths / 10) ++ "." ++ toString (tenths % 10) ++ rest.headD ""
        else go fuel ((size + 1023) / 1024) rest
    | _, size, _ => toString size

/-- The links to a file. -/
def linkCount (s : State) (facts : FileFacts) : Nat :=
  match facts.kind with
  | .folder => 2 + ((s.files.children facts.path).filter (·.node.isFolder)).length
  | _ => max 1 (s.files.entriesOf facts.path).length

/-- The mark behind a name. -/
def ListForm.mark (form : ListForm) (facts : FileFacts) : String :=
  match form.marks, facts.kind with
  | none, _ => ""
  | some _, .folder => "/"
  | some 'p', _ => ""
  | some _, .link => "@"
  | some _, .pipe => "|"
  | some 'F', .regular => if facts.mode &&& 0o111 ≠ 0 then "*" else ""
  | some _, _ => ""

/-- A name as it is shown. -/
def ListForm.shownName (form : ListForm) (name : String) : String :=
  form.naming.text name

/-- What is known of a file in a listing. -/
def listed (s : State) (form : ListForm) (name text : String) (follows : Bool) :
    Except FileError Listed := do
  let facts ← s.facts text (follows || form.follows)
  let target := match facts.kind, s.files.lookup facts.path with
    | .link, some (.link target) => some target
    | _, _ => none
  pure ⟨name, facts, target, (s.facts text).toOption⟩

/-- The part of a name after its last point. -/
def nameEnding (name : String) : String :=
  match (name.toList.reverse.span (· ≠ '.')) with
  | (after, _ :: _) => String.ofList after.reverse
  | _ => ""

/-- One file stands before another. -/
def ListForm.before (form : ListForm) (a b : Listed) : Bool :=
  let byName := a.name ≤ b.name
  let isFolder := fun (l : Listed) =>
    l.facts.kind = .folder || (l.behind.any fun facts => facts.kind = .folder)
  let order : Bool := match form.sorts with
    | 'v' => Version.compareNames a.name.toList b.name.toList != .gt
    | 'w' => if a.name.length = b.name.length then byName else a.name.length < b.name.length
    | 't' => if a.facts.age = b.facts.age then byName else a.facts.age < b.facts.age
    | 'S' => if a.facts.size = b.facts.size then byName else b.facts.size < a.facts.size
    | 'X' =>
      let x := nameEnding a.name
      let y := nameEnding b.name
      if x = y then byName else x < y
    | _ => byName
  if form.foldersFirst && isFolder a ≠ isFolder b then isFolder a else order

/-- Files in the order of a listing. -/
def ListForm.ordered (form : ListForm) (all : List Listed) : List Listed :=
  if form.sorts = 'U' then all
  else
    let before := fun (a b : Listed) =>
      if form.reverse then form.before b a else form.before a b
    all.mergeSort before

/-- The time of a file as a long listing shows it. -/
def ListForm.timeText (form : ListForm) (s : State) (facts : FileFacts) : String :=
  let t := changed s facts
  let present := s.now
  let isRecent := present - 15778476 < t && t ≤ present
  Calendar.format t (if isRecent then form.times.1 else form.times.2)

/-- The lines of some files, each with its width. -/
def ListForm.lines (form : ListForm) (s : State) (all : List Listed) : List (String × Nat) :=
  let sizeText := fun (l : Listed) =>
    if l.facts.kind = .device then "1, 3"
    else if form.human then humanSize l.facts.size else toString l.facts.size
  let links := fun (l : Listed) => toString (linkCount s l.facts)
  let blocks := fun (l : Listed) =>
    if form.human then humanSize (1024 * blockCount l.facts) else toString (blockCount l.facts)
  let width := fun (texts : List String) => (texts.map String.length).foldl max 0
  let owner := if form.numbers then "0" else "root"
  all.map fun l =>
    let before := if form.blocks then padLeft (width (all.map blocks)) (blocks l) ++ " " else ""
    let bare := form.shownName l.name
    let name := form.inColour l.facts bare
    if form.long then
      let line := before ++ (kindLetter l.facts.kind).toString ++ Mode.letters l.facts.mode ++
        " " ++ padLeft (width (all.map links)) (links l) ++ " " ++
        (if form.owner then owner ++ " " else "") ++ (if form.group then owner ++ " " else "") ++
        padLeft (width (all.map sizeText)) (sizeText l) ++ " " ++ form.timeText s l.facts ++ " " ++
        name ++
        (match l.target with
          | some target =>
            " -> " ++ l.behind.elim (form.shownName target) (fun facts =>
              form.inColour facts (form.shownName target)) ++
              ((form.marks.bind fun _ => l.behind).elim "" form.mark)
          | none => form.mark l.facts)
      (line, line.length)
    else
      let mark := form.mark l.facts
      (before ++ name ++ mark, before.length + bare.length + mark.length)

/-- The blanks that lead from one column to another. -/
def indent (tab : Nat) : Nat → Nat → Nat → String
  | fuel + 1, here, aim =>
    if aim ≤ here then ""
    else if (here + 1) / tab < aim / tab then
      "\t" ++ indent tab fuel (here + tab - here % tab) aim
    else " " ++ indent tab fuel (here + 1) aim
  | 0, _, _ => ""

/-- The names of one row, in columns of some widths. -/
def columnRow (tab : Nat) (widths : List Nat) :
    Nat → Nat → List (Nat × String × Nat) → String
  | _, _, [] => ""
  | start, here, (column, name, width) :: rest =>
    let next := start + widths.getD column 0
    indent tab (start + 1) here start ++ name ++ columnRow tab widths next (start + width) rest

/-- The names in columns, as many as fit into a line. -/
def columnLines (byRows : Bool) (tab width : Nat) (names : List (String × Nat)) :
    List String :=
  let count := names.length
  let place := fun (columns n : Nat) =>
    let rows := (count + columns - 1) / columns
    if byRows then (n / columns, n % columns) else (n % rows, n / rows)
  let widthsOf := fun (columns : Nat) =>
    (List.range columns).map fun column =>
      let here := names.zipIdx.filter fun (_, n) => (place columns n).2 = column
      let gap := if column + 1 = columns then 0 else 2
      (here.map fun ((_, width), _) => width + gap).foldl max
        (if column + 1 = columns then 1 else 3)
  let fits := fun (columns : Nat) => (widthsOf columns).foldl (· + ·) 0 < width
  let columns := ((List.range (min count (max 1 (width / 3)))).map (· + 1)).reverse.find? fits
  let columns := columns.getD 1
  let widths := widthsOf columns
  let rows := (count + columns - 1) / columns
  (List.range rows).map fun row =>
    let here := names.zipIdx.filterMap fun (name, n) =>
      let (r, column) := place columns n
      if r = row then some (column, name) else none
    columnRow tab widths 0 0 here

/-- The names with `sep` between them, in lines of some width unless that is zero. The line is
`here` characters long so far. -/
def joinNames (sep : Char) (ending : String) (width here : Nat) : List (String × Nat) → String
  | [] => ending
  | [(name, _)] => name ++ ending
  | (name, size) :: (next, nextSize) :: rest =>
    let here := here + size
    let fits := width = 0 || here + nextSize + 2 < width
    name ++ sep.toString ++ (if fits then " " else ending) ++
      joinNames sep ending width (if fits then here + 2 else 0) ((next, nextSize) :: rest)

/-- The text of some lines. -/
def ListForm.text (form : ListForm) (lines : List (String × Nat)) : String :=
  let ending := form.ending.toString
  if lines.isEmpty then ""
  else
    match form.layout with
    | some 'm' => joinNames ',' ending form.width 0 lines
    | some c =>
      if form.width = 0 then joinNames ' ' ending 0 0 lines
      else String.join ((columnLines (c = 'x') form.tab form.width lines).map (· ++ ending))
    | none => String.join (lines.map fun (line, _) => line ++ ending)

/-- What stands in a folder. -/
def ListForm.inside (form : ListForm) (s : State) (folder : Path) (text : String) :
    List Listed :=
  let names := (s.files.children folder).filterMap fun entry => entry.path.getLast?
  let wanted := names.filter fun name =>
    (form.hidden || !name.startsWith ".") &&
      !form.ignored.any fun glyphs =>
        (Pattern.ofGlyphs {} glyphs).matches? name.toList
  let all := (if form.selves then [".", ".."] else []) ++ wanted
  all.filterMap fun name =>
    (listed s form name (if text.endsWith "/" then text ++ name else text ++ "/" ++ name)
      false).toOption

/-- The text for what stands in a folder, and in the folders below it if that is wanted. -/
def ListForm.folderText (form : ListForm) (s : State) : Nat → Bool → Bool → Path → String → String
  | 0, _, _, _, _ => ""
  | fuel + 1, first, titled, folder, text =>
    let all := form.ordered (form.inside s folder text)
    let title := if titled then (if first then "" else "\n") ++ form.shownName text ++ ":\n" else ""
    let total := if form.long || form.blocks then
        let count := (all.map fun l => blockCount l.facts).foldl (· + ·) 0
        "total " ++ (if form.human then humanSize (1024 * count) else toString count) ++
          form.ending.toString
      else ""
    let below := if !form.deep then [] else all.map fun l =>
      if l.facts.kind = .folder && l.name ≠ "." && l.name ≠ ".." then
        form.folderText s fuel false true l.facts.path
          (if text.endsWith "/" then text ++ l.name else text ++ "/" ++ l.name)
      else ""
    title ++ total ++ form.text (form.lines s all) ++ String.join below

/-- A text in which the first colour is set apart from what stands before it. -/
def afterReset : List Char → List Char
  | [] => []
  | '\x1b' :: rest => "\x1b[0m\x1b".toList ++ rest
  | c :: rest => c :: afterReset rest

/-- The forms of moments that a style of times stands for. -/
def timeForms (text : String) : Act (String × String) := do
  let both := fun (form : String) => (form, form)
  if text.startsWith "+" then
    match Text.pieces ['\n'] (text.toList.drop 1) with
    | [old, recent] => pure (String.ofList recent, String.ofList old)
    | _ => pure (both (String.ofList (text.toList.drop 1)))
  else
    let plain := if text.startsWith "posix-" then "locale" else text
    let names := ["full-iso", "long-iso", "iso", "locale"]
    let fitting := names.filter (·.startsWith plain)
    match (if names.contains plain then [plain] else fitting) with
    | ["full-iso"] => pure (both "%Y-%m-%d %H:%M:%S.%N %z")
    | ["long-iso"] => pure (both "%Y-%m-%d %H:%M")
    | ["iso"] => pure ("%m-%d %H:%M", "%Y-%m-%d ")
    | ["locale"] => pure ("%b %e %H:%M", "%b %e  %Y")
    | _ =>
      let problem := if fitting.isEmpty then "invalid" else "ambiguous"
      complain (problem ++ " argument " ++ cited text ++ " for 'time style'")
      warn ("Valid arguments are:\n" ++
        String.join (names.map fun name => "  - [posix-]" ++ name ++ "\n") ++
        "  - +FORMAT (e.g., +%H:%M) for a 'date'-style format\n")
      hint 2

/-- The width of lines that a text tells. -/
def lineWidth? (text : String) : Option Nat :=
  if text.isEmpty then none
  else if text.toList.all Char.isDigit then Text.digitsAfter 10 0 text.toList
  else if text.startsWith "0x" && 2 < text.length then
    Text.digitsAfter 16 0 (text.toList.drop 2)
  else none

/-- Writes the names of files and of what stands in folders. -/
def ls (args : List String) : Act Unit := do
  let f ← options {
    letters := "abcdfghiklmnopqrstuvw:xABCDFGHI:LNQRST:UXZ1"
    names := [("all", 'a', .nothing), ("escape", 'b', .nothing), ("directory", 'd', .nothing),
      ("dired", 'D', .nothing), ("full-time", '2', .nothing),
      ("group-directories-first", '5', .nothing), ("human-readable", 'h', .nothing),
      ("inode", 'i', .nothing), ("kibibytes", 'k', .nothing),
      ("numeric-uid-gid", 'n', .nothing), ("no-group", 'G', .nothing),
      ("hide-control-chars", 'q', .nothing), ("reverse", 'r', .nothing), ("size", 's', .nothing),
      ("width", 'w', .value), ("almost-all", 'A', .nothing), ("ignore-backups", 'B', .nothing),
      ("classify", 'F', .perhaps), ("file-type", 'K', .nothing), ("si", 'J', .nothing),
      ("dereference-command-line", 'H', .nothing),
      ("dereference-command-line-symlink-to-dir", 'W', .nothing), ("hide", '8', .value),
      ("ignore", 'I', .value), ("indicator-style", '7', .value), ("dereference", 'L', .nothing),
      ("literal", 'N', .nothing), ("quote-name", 'Q', .nothing), ("quoting-style", '9', .value),
      ("recursive", 'R', .nothing), ("format", '6', .value),
      ("show-control-chars", 'E', .nothing), ("sort", '4', .value), ("tabsize", 'T', .value),
      ("time", 'M', .value), ("time-style", '3', .value), ("zero", 'z', .nothing),
      ("color", '0', .perhaps), ("hyperlink", 'y', .perhaps), ("block-size", 'V', .value),
      ("context", 'Z', .nothing), ("author", 'Y', .nothing)] } args 2
  let s ← get
  let told := fun (name : String) => s.environment.lookup name
  let sortOf ← match f.value? '4' with
    | some text =>
      let n ← choose "--sort" [["none"], ["time"], ["size"], ["extension"], ["version"], ["width"]]
        text
      pure ("UtSXvw".toList.getD n 'n')
    | none => pure 'n'
  let sorts := match f.last? ['t', 'S', 'X', 'U', 'f', '4', 'v'] with
    | some '4' => sortOf
    | some 'f' => 'U'
    | some c => c
    | none => 'n'
  let formatOf ← match f.value? '6' with
    | some text =>
      let n ← choose "--format" [["verbose", "long"], ["commas"], ["horizontal", "across"],
        ["vertical"], ["single-column"]] text
      pure ("lmxC1".toList.getD n '1')
    | none => pure '1'
  let format := f.options.foldl (fun (format : Char) (c, _) =>
    if "lngo2".toList.contains c then 'l'
    else if "mxC".toList.contains c then c
    else if c = '6' then formatOf
    else if c = '1' || c = 'z' then if format = 'l' then 'l' else '1'
    else if c = 'f' && format = 'l' then '1'
    else format) '1'
  let marks ← match f.last? ['F', 'p', 'K', '7'] with
    | some '7' =>
      let n ← choose "--indicator-style" [["none"], ["slash"], ["file-type"], ["classify"]]
        ((f.value? '7').getD "")
      pure ([none, some 'p', some 'K', some 'F'].getD n none)
    | some 'F' =>
      let word := (f.value? 'F').getD ""
      let n ← if word.isEmpty then pure 0 else choose "--classify" whens word
      pure (if n = 0 then some 'F' else none)
    | mark => pure mark
  let coloured ← match f.value? '0' with
    | some "" => pure true
    | some text => do pure ((← choose "--color" whens text) = 0)
    | none => pure false
  let styles := NameStyle.table.map fun (name, _) => [name]
  let naming ← match f.last? ['b', 'Q', 'N', '9'] with
    | some 'b' => pure NameStyle.escaped
    | some 'Q' => pure .quoted
    | some 'N' => pure .plain
    | some _ =>
      let n ← choose "--quoting-style" styles ((f.value? '9').getD "")
      pure ((NameStyle.table.getD n ("", .plain)).2)
    | none =>
      match told "QUOTING_STYLE" with
      | some text =>
        match NameStyle.table.lookup text with
        | some style => pure style
        | none =>
          complain ("ignoring invalid value of environment variable QUOTING_STYLE: " ++ cited text)
          pure .plain
      | none => pure .plain
  let naming := match naming, f.last? ['q', 'E'] with
    | .plain, some 'q' => .masked
    | style, _ => style
  let layout := some format |>.filter ['C', 'm', 'x'].contains
  let width ← match f.value? 'w' with
    | some text =>
      match lineWidth? text with
      | some n => pure n
      | none => fail ("invalid line width: " ++ cited text) 2
    | none =>
      match (told "COLUMNS").filter (!·.isEmpty) with
      | some text =>
        match lineWidth? text with
        | some n => pure n
        | none =>
          if layout.isSome then
            complain ("ignoring invalid width in environment variable COLUMNS: " ++ cited text)
          pure 80
      | none => pure 80
  let times ← if format ≠ 'l' then pure ("", "") else match f.last? ['2', '3'] with
    | some '2' => timeForms "full-iso"
    | _ => timeForms (((f.value? '3').or (told "TIME_STYLE")).getD "locale")
  let colours := (((told "LS_COLORS").getD "").splitOn ":").filterMap fun text =>
    match text.splitOn "=" with
    | [key, code] => some (key, code)
    | _ => none
  let coloured := coloured && f.last? ['0', 'f', 'z'] = some '0' &&
    (!colours.isEmpty || (told "COLORTERM").any (!·.isEmpty) || (told "TERM").any isKnown)
  let tab ← match f.value? 'T' with
    | some text =>
      match lineWidth? text with
      | some n => pure n
      | none => fail ("invalid tab size: " ++ cited text) 2
    | none => pure 8
  let glyphs := fun (texts : List String) =>
    texts.map fun text => text.toList.map fun c => (⟨c, false⟩ : Glyph)
  let any : Glyph := ⟨'*', false⟩
  let hidden := f.has 'a' || f.has 'A' || f.has 'f'
  let form : ListForm := {
    hidden
    selves := f.last? ['a', 'A', 'f'] = some 'a' || f.last? ['a', 'A', 'f'] = some 'f'
    long := format = 'l'
    deep := f.has 'R'
    plain := f.has 'd'
    follows := f.has 'L'
    marks
    sorts
    reverse := f.has 'r'
    foldersFirst := f.has '5'
    blocks := f.last? ['s', 'f'] = some 's'
    owner := !f.has 'g'
    group := !f.has 'o' && !f.has 'G'
    numbers := f.has 'n'
    human := f.has 'h'
    naming
    coloured
    colours
    layout
    width
    tab := if coloured then 0 else tab
    ending := if f.has 'z' then '\x00' else '\n'
    times
    ignored := glyphs (f.values 'I' ++ (if hidden then [] else f.values '8')) ++
      (if f.has 'B' then [[any, ⟨'~', false⟩], [⟨'.', false⟩, any, ⟨'~', false⟩]] else []) }
  let operands := if f.operands.isEmpty then ["."] else f.operands
  let s ← get
  let follows := !form.long && form.marks ≠ some 'F' && !form.plain || f.has 'H' || f.has 'W'
  let found ← operands.mapM fun text => do
    let attempt : Except FileError Listed := match listed s form text text follows with
      | .ok l => .ok l
      | .error e => if form.follows then .error e else listed s form text text false
    match attempt with
    | .ok l => pure [l]
    | .error e =>
      deplore ("cannot access " ++ inQuotes text ++ ": " ++ e.reason) 2
      pure []
  let all := form.ordered found.flatten
  let (folders, files) := all.partition fun l => l.facts.kind = .folder && !form.plain
  let titled := 1 < operands.length || form.deep
  let pieces := folders.zipIdx.map fun (l, n) =>
    form.folderText s (s.files.entries.length + 1) (n = 0 && files.isEmpty) titled l.facts.path
      l.name
  let text := form.text (form.lines s files) ++ String.join pieces
  write (if form.coloured then afterReset text.toList else text.toList)
where
  /-- The terminal of a name can show colours. -/
  isKnown (name : String) : Bool :=
    ["ansi", "cons", "cygwin", "dtterm", "gnome", "konsole", "kterm", "linux", "mlterm", "putty",
      "rxvt", "screen", "tmux", "vt100", "vt220", "xterm"].any fun start => name.startsWith start
  /-- The words that say when something is done: always, never, or where the output is seen. -/
  whens : List (List String) :=
    [["always", "yes", "force"], ["never", "no", "none"], ["auto", "tty", "if-tty"]]

/-- The value of a directive about a file. -/
def factText (s : State) (text : String) (facts : FileFacts) : Char → String
  | 'n' => text
  | 'N' =>
    match facts.kind, s.files.lookup facts.path with
    | .link, some (.link target) => inQuotes text ++ " -> " ++ inQuotes target
    | _, _ => inQuotes text
  | '£' =>
    match facts.kind, s.files.lookup facts.path with
    | .link, some (.link target) => text ++ " -> " ++ target
    | _, _ => text
  | 's' => toString facts.size
  | 'F' => kindName facts
  | 'a' => Mode.digits facts.mode
  | 'A' => (kindLetter facts.kind).toString ++ Mode.letters facts.mode
  | 'f' =>
    let top := match facts.kind with
      | .regular => 0o100000
      | .folder => 0o040000
      | .link => 0o120000
      | .pipe => 0o010000
      | .device => 0o020000
    String.ofList (Nat.toDigits 16 (top + facts.mode))
  | 'h' => toString (linkCount s facts)
  | 'u' | 'g' => "0"
  | 'U' | 'G' => "root"
  | 'b' => toString (2 * blockCount facts)
  | 'B' => "512"
  | 'o' => "4096"
  | 't' | 'T' => "0"
  | 'X' | 'Y' | 'Z' => toString (changed s facts)
  | 'x' | 'y' | 'z' => Calendar.format (changed s facts) "%Y-%m-%d %H:%M:%S.%N %z"
  | 'm' => "/"
  | 'i' =>
    let first := s.files.firstName facts.path
    toString (131072 + (s.files.entries.findIdx? (·.path = first)).getD 0)
  | 'd' => "65024"
  | 'W' => "0"
  | 'w' => "-"
  | _ => "?"

/-- The facts about a file in the form of a text. -/
def factsFrom (s : State) (text : String) (facts : FileFacts) (escapes : Bool) :
    Nat → List Char → List Char
  | 0, _ => []
  | fuel + 1, '%' :: rest =>
    let flags := rest.takeWhile fun c => "-0+ #".toList.contains c
    let after := rest.drop flags.length
    let width := after.takeWhile Char.isDigit
    let after := after.drop width.length
    let cutTo := match after with
      | '.' :: more => some (more.takeWhile Char.isDigit)
      | _ => none
    let after := after.drop (cutTo.elim 0 (·.length + 1))
    match after with
    | '%' :: more => '%' :: factsFrom s text facts escapes fuel more
    | [] => ['%']
    | letter :: more =>
      let value := factText s text facts letter
      let n := (Text.digitsAfter 10 0 width).getD 0
      let isNumber := !value.isEmpty && value.toList.all Char.isDigit
      let value := match cutTo with
        | some digits =>
          let least := (Text.digitsAfter 10 0 digits).getD 0
          if isNumber then
            String.ofList (List.replicate (least - value.length) '0') ++ value
          else String.ofList (value.toList.take least)
        | none => value
      let full := if flags.contains '-' then padRight n value
        else if flags.contains '0' && isNumber then
          String.ofList (List.replicate (n - value.length) '0') ++ value
        else padLeft n value
      full.toList ++ factsFrom s text facts escapes fuel more
  | fuel + 1, '\\' :: rest =>
    if escapes then
      match rest with
      | 'n' :: more => '\n' :: factsFrom s text facts escapes fuel more
      | 't' :: more => '\t' :: factsFrom s text facts escapes fuel more
      | '\\' :: more => '\\' :: factsFrom s text facts escapes fuel more
      | '"' :: more => '"' :: factsFrom s text facts escapes fuel more
      | more => '\\' :: factsFrom s text facts escapes fuel more
    else '\\' :: factsFrom s text facts escapes fuel rest
  | fuel + 1, c :: rest => c :: factsFrom s text facts escapes fuel rest
  | _, [] => []

/-- The form in which the facts about a file are written where nothing is said. -/
def usualFacts : String :=
  "  File: %£\n  Size: %-10s\tBlocks: %-10b IO Block: %-6o %F\n" ++
    "Device: 254,0\tInode: %-11i Links: %h\n" ++
    "Access: (%04a/%10A)  Uid: ( %4u/%8U)   Gid: ( %4g/%8G)\n" ++
    "Access: %x\nModify: %y\nChange: %z\n Birth: -"

/-- Writes facts about files. -/
def stat (args : List String) : Act Unit := do
  let f ← options {
    letters := "c:fLt"
    names := [("format", 'c', .value), ("printf", 'p', .value), ("dereference", 'L', .nothing),
      ("terse", 't', .nothing), ("file-system", 'f', .nothing), ("cached", '1', .value)] } args
  if f.operands.isEmpty then misuse "missing operand"
  forAll f.operands fun text => do
    let s ← get
    let found := if text = "-" then s.facts "/dev/stdin" else s.facts text (f.has 'L')
    match found with
    | .error .notOpen => deplore "cannot stat standard input: Bad file descriptor"
    | .error e => deploreDoing "cannot statx" text e
    | .ok facts =>
      let escapes := f.last? ['c', 'p'] = some 'p'
      let form := ((f.value? (if escapes then 'p' else 'c')).getD
        (if f.has 't' then "%n %s %b %f %u %g 0 %i %h %t %T %X %Y %Z %W %o"
          else usualFacts)).toList
      write (factsFrom s text facts escapes (form.length + 1) form ++
        (if escapes then [] else ['\n']))

end RemoteAttach.Tool
