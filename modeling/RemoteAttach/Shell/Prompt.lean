import RemoteAttach.Calendar
import RemoteAttach.Shell.Words
import RemoteAttach.Shell.Variables

/-! The prompts of the larger shell, in which letters after backslashes stand for what the shell
knows about itself. -/

namespace RemoteAttach.Shell.Prompt

/-- The folder that the shell is in, with a tilde for the home folder. -/
def folder (s : State) : String :=
  match s.text? "HOME" with
  | some home =>
    if s.folderText = home then "~"
    else if 1 < home.length && s.folderText.startsWith (home ++ "/") then
      "~" ++ s.folderText.drop home.length
    else s.folderText
  | none => s.folderText

/-- The last part of a path. -/
def lastPart (path : String) : String :=
  match ((path.splitOn "/").filter (!·.isEmpty)).getLast? with
  | some part => part
  | none => path

/-- What a letter after a backslash stands for. -/
def letter? (s : State) (c : Char) : Option String :=
  let moment := fun (form : String) => some (Calendar.format s.now form)
  match c with
  | 't' => moment "%H:%M:%S"
  | 'T' => moment "%I:%M:%S"
  | '@' => moment "%I:%M %p"
  | 'A' => moment "%H:%M"
  | 'd' => moment "%a %b %d"
  | 'n' => some "\n"
  | 'r' => some "\r"
  | 'a' => some "\x07"
  | 'e' => some "\x1b"
  | 's' => some "bash"
  | 'v' => some "5.2"
  | 'V' => some "5.2.15"
  | 'w' => some (folder s)
  | 'W' => some (if folder s = "~" then "~" else lastPart s.folderText)
  | 'u' => some "root"
  | 'h' | 'H' => some "localhost"
  | 'j' => some (toString (s.jobs.filter (·.place.isSome)).length)
  | 'l' => some "tty"
  | '!' | '#' => some "1"
  | '$' => some "#"
  | '[' | ']' => some ""
  | '\\' => some "\\"
  | _ => none

/-- A prompt with what its letters stand for. -/
def decoded (s : State) : Nat → List Char → List Char
  | 0, text => text
  | _, [] => []
  | fuel + 1, '\\' :: rest =>
    match rest with
    | [] => ['\\']
    | 'D' :: '\x7b' :: more =>
      let form := String.ofList (more.takeWhile (· ≠ '\x7d'))
      (Calendar.format s.now (if form.isEmpty then "%X" else form)).toList ++
        decoded s fuel (more.drop (form.length + 1))
    | c :: more =>
      let (value, count) := Reading.digitsValue 8 3 rest
      if count ≠ 0 then Char.ofNat (value % 256) :: decoded s fuel (rest.drop count)
      else
        match letter? s c with
        | some text => text.toList ++ decoded s fuel more
        | none => '\\' :: c :: decoded s fuel more
  | fuel + 1, c :: rest => c :: decoded s fuel rest

end RemoteAttach.Shell.Prompt
