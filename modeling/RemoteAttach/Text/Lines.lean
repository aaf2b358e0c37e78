/-! Texts as lines: runs of characters up to a character that ends each of them. -/

namespace RemoteAttach.Text

/-- Cuts what is left of a text behind each `mark`. `done` holds the lines so far, the last one
first, and `line` the line that has begun, the last character first. -/
def linesFrom (mark : Char) (done : List (List Char)) (line : List Char) :
    List Char → List (List Char) × List Char
  | [] => (done.reverse, line.reverse)
  | c :: rest =>
    if c = mark then linesFrom mark (line.reverse :: done) [] rest
    else linesFrom mark done (c :: line) rest

/-- The lines of a text without the marks that end them, and what follows the last mark. -/
def linesOf (mark : Char) (text : List Char) : List (List Char) × List Char :=
  linesFrom mark [] [] text

/-- The lines of a text. What follows the last mark is a line too, unless it is empty. -/
def allLines (text : List Char) (mark : Char := '\n') : List (List Char) :=
  match linesOf mark text with
  | (lines, []) => lines
  | (lines, last) => lines ++ [last]

/-- The text of some lines, each with its mark. -/
def ofLines (lines : List (List Char)) (mark : Char := '\n') : List Char :=
  lines.flatMap fun line => line ++ [mark]

end RemoteAttach.Text
