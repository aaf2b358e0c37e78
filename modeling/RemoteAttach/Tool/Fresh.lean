import RemoteAttach.Tool.Tree

/-! The program that makes a file or folder of a name that nothing has yet. -/

namespace RemoteAttach.Tool

open Shell Act

/-- A name with a place that is filled so that nothing else has it. -/
structure Template where
  before : String
  /-- How many characters fill the place. -/
  width : Nat
  behind : String

namespace Template

/-- The template with the place marked by letters. -/
def text (t : Template) : String :=
  t.before ++ String.ofList (List.replicate t.width 'X') ++ t.behind

/-- The template that a text means, to which a suffix may be given. -/
def read (text : String) (suffix : Option String) : Except String Template := do
  let chars := text.toList
  let behind := (chars.reverse.takeWhile (· ≠ 'X')).reverse
  let (start, behind) := match suffix with
    | some suffix => (chars, suffix)
    | none =>
      if chars.contains 'X' then (chars.take (chars.length - behind.length), String.ofList behind)
      else (chars, "")
  let width := (start.reverse.takeWhile (· = 'X')).length
  if suffix.isSome && width = 0 then
    .error ("with --suffix, template " ++ cited text ++ " must end in X")
  else if behind.contains '/' then
    .error ("invalid suffix " ++ cited behind ++ ", contains directory separator")
  else
    let t : Template := ⟨String.ofList (start.take (start.length - width)), width, behind⟩
    if width < 3 then .error ("too few X's in template " ++ cited t.text) else .ok t

/-- The template below a folder. -/
def inside (t : Template) (folder : String) : Template :=
  { t with before := (if folder.endsWith "/" then folder else folder ++ "/") ++ t.before }

/-- The name whose place holds a number in digits. -/
def filled (t : Template) (n : Nat) : String :=
  let digits := Nat.toDigits 16 n
  t.before ++ String.ofList (List.replicate (t.width - digits.length) '0' ++ digits) ++ t.behind

/-- The first name that nothing has. -/
def free (t : Template) (s : State) : String :=
  let isFree := fun (n : Nat) => (nodeAt s (t.filled n) false).toOption.isNone
  t.filled (((List.range (s.files.entries.length + 1)).find? isFree).getD 0)

/-- The template below the folder that options and the environment tell, if it is to be there. -/
def placed (t : Template) (f : Found) (own : Option String) : Except String Template :=
  let isGiven := fun (text : String) => !text.isEmpty
  let told := (f.value? 'p').filter isGiven
  let own := own.filter isGiven
  if f.has 't' then
    if t.text.contains '/' then
      .error ("invalid template, " ++ cited t.text ++ ", contains directory separator")
    else .ok (t.inside ((own.or told).getD "/tmp"))
  else if f.has 'p' || f.operands.isEmpty then
    if t.text.startsWith "/" then
      .error ("invalid template, " ++ cited t.text ++ "; with --tmpdir, it may not be absolute")
    else .ok (t.inside ((told.or own).getD "/tmp"))
  else .ok t

end Template

/-- The state with a new file or folder. -/
def withNew (s : State) (name : String) (isFolder : Bool) : Except FileError State := do
  let path ← s.files.resolve s.folder name false
  let node := if isFolder then Node.folder (0o700 &&& (0o777 ^^^ s.mask))
    else .file .empty (0o600 &&& (0o777 ^^^ s.mask))
  .ok { s with files := s.files.add (.alone path node) }

/-- Makes a file or folder with a new name, and tells that name. -/
def mktemp (args : List String) : Act Unit := do
  let f ← options {
    letters := "dp:qtuV"
    names := [("directory", 'd', .nothing), ("quiet", 'q', .nothing), ("dry-run", 'u', .nothing),
      ("suffix", 's', .value), ("tmpdir", 'p', .perhaps)] } args
  if 1 < f.operands.length then misuse "too many templates"
  let s ← get
  let made : Except String (String × State) := do
    let t ← Template.read (f.operands.headD "tmp.XXXXXXXXXX") (f.value? 's')
    let t ← t.placed f (s.text? "TMPDIR")
    let name := t.free s
    if f.has 'u' then .ok (name, s)
    else
      match withNew s name (f.has 'd') with
      | .ok after => .ok (name, after)
      | .error e =>
        .error ("failed to create " ++ (if f.has 'd' then "directory" else "file") ++
          " via template " ++ cited t.text ++ ": " ++ e.reason)
  match made with
  | .ok (name, after) =>
    set after
    writeLines [name]
  | .error words => if f.has 'q' then finish 1 else deplore words

end RemoteAttach.Tool
