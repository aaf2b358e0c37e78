/-! Cuts of a text at a separator: at the first occurrence of a character, or at every occurrence
of a text, from left to right and without overlap. -/

namespace RemoteAttach.Text

/-- The parts before and after the first `separator`, or nothing if the text has none. -/
def cutAt (separator : Char) : List Char → Option (List Char × List Char)
  | [] => none
  | c :: rest =>
    if c = separator then some ([], rest)
    else (cutAt separator rest).map fun (before, after) => (c :: before, after)

/-- The pieces of a text between the occurrences of `separator`, after skipping `skip` characters.
The characters of `piece` are held last first. -/
def piecesAfter (separator : List Char) : Nat → List Char → List Char → List (List Char)
  | _, piece, [] => [piece.reverse]
  | skip + 1, piece, _ :: rest => piecesAfter separator skip piece rest
  | 0, piece, c :: rest =>
    if separator.isPrefixOf (c :: rest) then
      piece.reverse :: piecesAfter separator (separator.length - 1) [] rest
    else piecesAfter separator 0 (c :: piece) rest

/-- The pieces of a text between the occurrences of a non-empty `separator`. A text without an
occurrence is one piece. -/
def pieces (separator text : List Char) : List (List Char) :=
  piecesAfter separator 0 [] text

/-- The pieces of a text between the characters that separate, and are not part of them. -/
def piecesBetween (separates : Char → Bool) (text : List Char) : List (List Char) :=
  text.foldr (fun c pieces =>
    if separates c then [] :: pieces
    else
      match pieces with
      | [] => [[c]]
      | piece :: rest => (c :: piece) :: rest) [[]]

/-- The text with every occurrence of `pattern` replaced; what replaces it is not looked at
again. -/
def replaceAll (pattern replacement text : List Char) : List Char :=
  List.intercalate replacement (pieces pattern text)

end RemoteAttach.Text
