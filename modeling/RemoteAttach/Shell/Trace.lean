import RemoteAttach.Shell.Expand
import RemoteAttach.Shell.Format
import RemoteAttach.Shell.Layout.Reader

/-! The trace of a script: a shell that is asked for it writes each command before it runs. The
smaller shell writes the fields as they are; the larger one quotes them so that they could be read
again, and gives assignments and conditions lines of their own. -/

namespace RemoteAttach.Shell.Trace

open Act

/-- Characters for which the larger shell quotes a field. -/
def special : List Char :=
  [' ', '\t', '\n', '\'', '"', '\\', '|', '&', ';', '(', ')', '<', '>', '!', '\x7b', '\x7d', '*',
    '[', ']', '?', '^', '$', '`']

/-- A field needs quotes. -/
def needsQuotes (text : List Char) : Bool :=
  text.any special.contains || text.head? = some '~' || text.head? = some '#' ||
    (text.zip (text.drop 1)).any fun (a, b) => (a = '=' || a = ':') && b = '~'

/-- A field in single quotes. -/
def singleQuoted (text : String) : String :=
  "'" ++ text.replace "'" "'\\''" ++ "'"

/-- A field as the larger shell traces it. -/
def field (text : String) : String :=
  if text.isEmpty then "''"
  else if text.toList.any fun c => (c < ' ' && c ≠ '\t' && c ≠ '\n') || '\x7f' ≤ c then
    quotedWord text
  else if needsQuotes text.toList then singleQuoted text
  else text
where
  /-- A text with characters that cannot be printed. -/
  quotedWord (text : String) : String := Format.quotedWord text

/-- A value as the larger shell traces it in an assignment. -/
def value (text : String) : String :=
  if text.isEmpty then "" else field text

/-- An operand of a condition as it is traced. -/
def operand (text : String) : String :=
  if text.isEmpty then "''" else text

/-- A pattern as it is traced in a condition, which writes backslashes before the characters that
stand between quotes. -/
def pattern (glyphs : List Glyph) : String :=
  String.ofList (glyphs.flatMap fun g => if g.quoted then ['\\', g.char] else [g.char])

/-- A list as it is traced before the command that is given it. -/
def list (items : List (Option String × String)) : String :=
  "(" ++ String.intercalate " " (items.map fun (key, text) =>
    key.elim "" (fun key => "[" ++ singleQuoted key ++ "]=") ++ singleQuoted text) ++ ")"

/-- The start of a line of the trace. -/
def start (r : Runner) : Act String := do
  let s ← get
  match s.text? "PS4" with
  | none => pure (if s.dialect = .bash then "+ " else "")
  | some text =>
    set { s with options := s.options.filter (· ≠ "xtrace") }
    let text ← Expand.promptOf r text
    modify fun after => { after with options := s.options, status := s.status }
    match text.toList, s.dialect with
    | c :: _, .bash => pure (String.ofList (List.replicate s.nesting c) ++ text)
    | _, _ => pure text

/-- Writes a line of the trace to the streams that were open before the command that runs. -/
def line (r : Runner) (streams : List (Nat × Nat)) (text : String) : Act Unit := do
  if (← get).on "xtrace" then
    let start ← start r
    let now := (← get).streams
    modify fun s => { s with streams }
    warn (start ++ text ++ "\n")
    modify fun s => { s with streams := now }

/-- Traces a simple command of the smaller shell. -/
def simple (r : Runner) (streams : List (Nat × Nat)) (settings : List (String × String))
    (fields : List String) : Act Unit :=
  line r streams (String.intercalate " "
    (settings.map (fun (name, value) => name ++ "=" ++ value) ++ fields))

/-- Traces an assignment of the larger shell. -/
def setting (r : Runner) (name text : String) (append : Bool) : Act Unit := do
  if (← get).dialect = .bash then
    line r (← get).streams (name ++ (if append then "+=" else "=") ++ text)

/-- Traces a command of the larger shell by its words, which are only made if they are needed. -/
def words (r : Runner) (text : Unit → String) : Act Unit := do
  let s ← get
  if s.dialect = .bash && s.on "xtrace" then line r s.streams (text ())

end RemoteAttach.Shell.Trace
