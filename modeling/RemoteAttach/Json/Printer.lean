import RemoteAttach.Decimal.Shortest
import RemoteAttach.Json.Value
import RemoteAttach.Text.Numeral

/-! The text of a JSON value, without any blanks or with an indentation of two spaces for each
level. Members are written in the order in which they stand. -/

namespace RemoteAttach.Json

/-- A character as it stands in a string literal: a quote, a backslash and the controls below the
space are escaped, and all others stand for themselves. -/
def literalChar (c : Char) : List Char :=
  if c = '"' || c = '\\' then ['\\', c]
  else if c = '\n' then ['\\', 'n']
  else if c = '\r' then ['\\', 'r']
  else if c = '\t' then ['\\', 't']
  else if c = '\x08' then ['\\', 'b']
  else if c = '\x0c' then ['\\', 'f']
  else if c.toNat < 0x20 then
    ['\\', 'u', '0', '0'] ++ List.replicate (2 - (Text.hexDigits c.toNat).length) '0' ++
      Text.hexDigits c.toNat
  else [c]

/-- The string literal of a text. -/
def literal (text : String) : List Char :=
  '"' :: text.toList.flatMap literalChar ++ ['"']

/-- The text of a number: a whole number in decimal digits, any other in its shortest form. -/
def Number.text : Number → List Char
  | .integer value => (toString value).toList
  | .decimal value => value.text

mutual

/-- The text of a value without blanks. -/
def render : Json → List Char
  | null => ['n', 'u', 'l', 'l']
  | bool true => ['t', 'r', 'u', 'e']
  | bool false => ['f', 'a', 'l', 's', 'e']
  | number value => value.text
  | string text => literal text
  | array items => '[' :: renderItems items ++ [']']
  | object members => '\x7b' :: renderMembers members ++ ['\x7d']

/-- The texts of items, divided by commas. -/
def renderItems : List Json → List Char
  | [] => []
  | [item] => render item
  | item :: rest => render item ++ ',' :: renderItems rest

/-- The texts of members, divided by commas. -/
def renderMembers : List (String × Json) → List Char
  | [] => []
  | [(name, value)] => literal name ++ ':' :: render value
  | (name, value) :: rest => literal name ++ ':' :: render value ++ ',' :: renderMembers rest

end

/-- The text of a value without blanks. -/
def compact (value : Json) : String :=
  String.ofList value.render

/-- The break before a line of the given level. -/
def lineBreak (level : Nat) : List Char :=
  '\n' :: List.replicate (2 * level) ' '

mutual

/-- The text of a value on the given level, with a line for each item and member; an empty array or
object stays on its line. -/
def layout (level : Nat) : Json → List Char
  | array (item :: rest) =>
    '[' :: layoutItems (level + 1) (item :: rest) ++ lineBreak level ++ [']']
  | object (member :: rest) =>
    '\x7b' :: layoutMembers (level + 1) (member :: rest) ++ lineBreak level ++ ['\x7d']
  | array [] => ['[', ']']
  | object [] => ['\x7b', '\x7d']
  | null => render null
  | bool value => render (bool value)
  | number value => render (number value)
  | string text => render (string text)

/-- The lines of items, divided by commas. -/
def layoutItems (level : Nat) : List Json → List Char
  | [] => []
  | [item] => lineBreak level ++ layout level item
  | item :: rest => lineBreak level ++ layout level item ++ ',' :: layoutItems level rest

/-- The lines of members, divided by commas. -/
def layoutMembers (level : Nat) : List (String × Json) → List Char
  | [] => []
  | [(name, value)] => lineBreak level ++ literal name ++ [':', ' '] ++ layout level value
  | (name, value) :: rest =>
    lineBreak level ++ literal name ++ [':', ' '] ++ layout level value ++
      ',' :: layoutMembers level rest

end

/-- The text of a value in lines. -/
def pretty (value : Json) : String :=
  String.ofList (value.layout 0)

end RemoteAttach.Json
