import RemoteAttach.Text.Numeral
import RemoteAttach.Text.Hidden

/-! The quoted form of a text, in which error reports show names and commands: between double
quotes, with a backslash before a quote or a backslash, short escapes for the common controls, and
the code point of every other hidden character in braces. -/

namespace RemoteAttach.Text

/-- A character as it stands in a quoted text. -/
def quotedChar (c : Char) : List Char :=
  if c = '"' || c = '\\' then ['\\', c]
  else if c = '\n' then ['\\', 'n']
  else if c = '\r' then ['\\', 'r']
  else if c = '\t' then ['\\', 't']
  else if c.toNat = 0 then ['\\', '0']
  else if isHidden c then ['\\', 'u', '\x7b'] ++ hexDigits c.toNat ++ ['\x7d']
  else [c]

/-- The quoted form of a text. -/
def quoted (text : String) : String :=
  String.ofList ('"' :: text.toList.flatMap quotedChar ++ ['"'])

end RemoteAttach.Text
