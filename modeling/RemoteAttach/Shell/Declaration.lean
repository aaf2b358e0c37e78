import RemoteAttach.Shell.Format
import RemoteAttach.Shell.State

/-! How the larger shell writes a variable so that it could read it again: its marks as letters, and
its value between quotes. -/

namespace RemoteAttach.Shell

/-- A text between double quotes. -/
def Value.quoted (whole : String) : String :=
  if whole.toList.any fun c => c < ' ' || '~' < c then Format.quotedWord whole
  else
    "\"" ++ String.ofList (whole.toList.flatMap fun c =>
      if c = '"' || c = '\\' || c = '$' || c = '`' then ['\\', c] else [c]) ++ "\""

/-- A value, with its text written by `quote` if it is no list. -/
def Value.written (quote : String → String) : Value → String
  | .text whole => quote whole
  | .items all =>
    "(" ++ String.intercalate " " (all.map fun (n, item) =>
      "[" ++ toString n ++ "]=" ++ quoted item) ++ ")"
  | .table all =>
    "(" ++ String.join ((ordered all).map fun (key, item) =>
      "[" ++ key ++ "]=" ++ quoted item ++ " ") ++ ")"

namespace Variable

/-- The letters of the marks of a variable. -/
def marks (v : Variable) : String :=
  (match v.value with
    | some (.items _) => "a"
    | some (.table _) => "A"
    | _ => "") ++ (if v.integer then "i" else "") ++ (if v.points then "n" else "") ++
    (if v.readonly then "r" else "") ++ (if v.exported then "x" else "") ++
    (match v.raises with
      | some true => "u"
      | some false => "l"
      | none => "")

/-- The letters of the marks of a variable, or a dash if it has none. -/
def letters (v : Variable) : String :=
  if v.marks.isEmpty then "-" else v.marks

/-- The line that declares a variable. -/
def declaration (v : Variable) (name : String) : String :=
  "declare -" ++ v.letters ++ " " ++ name ++
    (match v.value with
      | some value => "=" ++ value.written Value.quoted
      | none => "")

end Variable

end RemoteAttach.Shell
