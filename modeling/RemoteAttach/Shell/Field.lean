import RemoteAttach.Files.Tree
import RemoteAttach.Shell.Pattern

/-! From the expansion of a word to the fields that a command is given: the values of unquoted
parameters are cut at separators, and fields that hold a pattern become the paths that it stands
for. -/

namespace RemoteAttach.Shell

/-- A piece of an expanded word. -/
inductive Atom where
  /-- A character that stays in its field. -/
  | fixed (g : Glyph)
  /-- A character that ends a field if it is a separator. -/
  | loose (c : Char)
  /-- A character that ends a field if it is a separator, even a blank among others. -/
  | single (c : Char)
  /-- The end of a field. -/
  | cut
  /-- A mark for a field that is there even if it is empty. -/
  | hold

namespace Atom

/-- The quoted atoms of a text, which is a field even if it is empty. -/
def ofQuoted (text : List Char) : List Atom :=
  .hold :: text.map fun c => .fixed ⟨c, true⟩

/-- Makes each separator end a field. -/
def alone : Atom → Atom
  | .loose c => .single c
  | atom => atom

/-- The glyphs of a word that is not cut into fields. -/
def glyphs (atoms : List Atom) : List Glyph :=
  atoms.filterMap fun atom => match atom with
    | .fixed g => some g
    | .loose c | .single c => some ⟨c, false⟩
    | .cut => some ⟨' ', true⟩
    | .hold => none

end Atom

namespace Field

/-- A separator that is a blank; a run of them separates once, and none stand at the ends. -/
def isBlankSeparator (separators : List Char) (c : Char) : Bool :=
  separators.contains c && (c = ' ' || c = '\t' || c = '\n')

/-- The fields of some atoms. `field` is the one that is being read, last glyph first, and `closed`
tells that a blank has ended the one before. -/
def cutAfter (separators : List Char) (field : Option (List Glyph)) (closed : Bool) :
    List Atom → List (List Glyph)
  | [] => field.toList.map List.reverse
  | .hold :: rest => cutAfter separators (some (field.getD [])) false rest
  | .fixed g :: rest => cutAfter separators (some (g :: field.getD [])) false rest
  | .cut :: rest => field.toList.map List.reverse ++ cutAfter separators none false rest
  | .single c :: rest =>
    if separators.contains c then
      (field.getD []).reverse :: cutAfter separators none false rest
    else cutAfter separators (some (⟨c, false⟩ :: field.getD [])) false rest
  | .loose c :: rest =>
    if isBlankSeparator separators c then
      field.toList.map List.reverse ++ cutAfter separators none (closed || field.isSome) rest
    else if separators.contains c then
      match field with
      | some g => g.reverse :: cutAfter separators none false rest
      | none =>
        if closed then cutAfter separators none false rest
        else [] :: cutAfter separators none false rest
    else cutAfter separators (some (⟨c, false⟩ :: field.getD [])) false rest

/-- The fields of some atoms. -/
def cut (separators : List Char) (atoms : List Atom) : List (List Glyph) :=
  cutAfter separators none false atoms

/-- The glyphs between solidi. -/
def components : List Glyph → List (List Glyph)
  | [] => [[]]
  | g :: rest =>
    match components rest with
    | first :: others => if g.char = '/' then [] :: first :: others else (g :: first) :: others
    | [] => [[g]]

/-- How fields become paths. -/
structure Globbing where
  form : Pattern.Form := {}
  /-- Patterns are left as they are. -/
  off : Bool := false
  /-- A pattern that stands for no path is dropped. -/
  dropsNone : Bool := false
  /-- Names that begin with a point need not be asked for. -/
  dots : Bool := false
  /-- Two stars stand for any number of folders. -/
  deep : Bool := false
  /-- The names of the folder itself and of the one around it count among those in it. -/
  listsSelf : Bool := true

/-- The names in a folder that a pattern stands for, in order. Names that begin with a point have
to be asked for. -/
def names (how : Globbing) (files : FileTree) (folder : Path) (text : String)
    (component : List Glyph) : List String :=
  match files.resolve folder (if text.isEmpty then "." else text) with
  | .error _ => []
  | .ok path =>
    if (files.lookup path).all fun node => !node.isFolder then []
    else
      let pattern := Pattern.ofGlyphs how.form component
      let found := (files.children path).filterMap (·.path.getLast?)
      let asked := (Pattern.plainText (component.take 2)).head? = some '.'
      let found := if how.listsSelf && asked then "." :: ".." :: found else found
      let wanted := found.filter fun name =>
        (!name.startsWith "." || asked || how.dots) && pattern.matches? name.toList
      wanted.mergeSort fun a b => a ≤ b

/-- The paths of what lies in a folder down to some depth, but not behind links. -/
def within (how : Globbing) (files : FileTree) (folder : Path) : Nat → String → List String
  | 0, _ => []
  | depth + 1, text =>
    (names how files folder text [⟨'*', false⟩]).flatMap fun name =>
      let path := text ++ name
      let isLink := match files.stat folder path false with
        | .ok (.link _) => true
        | _ => false
      if files.isFolder folder path && !isLink then
        path :: within how files folder depth (path ++ "/")
      else [path]

/-- The most folders inside each other that two stars stand for. -/
def maxDepth : Nat := 100

/-- A component that stands for any number of folders. -/
def isDeep (how : Globbing) (component : List Glyph) : Bool :=
  how.deep && component.length = 2 && component.all fun g => g.char = '*' && !g.quoted

/-- The texts of the paths that begin with `text` and go on as some components say. `isPlain` tells
that none before them was a pattern. -/
def pathsFrom (how : Globbing) (files : FileTree) (folder : Path) (isPlain : Bool) (text : String) :
    List (List Glyph) → List String
  | [] => if (files.stat folder text (text.endsWith "/")).isOk then [text] else []
  | component :: rest =>
    if isDeep how component then
      let found := within how files folder maxDepth text
      let folders := found.filter (files.isFolder folder ·)
      match rest with
      | [] =>
        let itself := if isPlain then text else String.ofList text.toList.dropLast
        (if files.isFolder folder itself then [itself] else []) ++ found
      | [[]] => (if text.isEmpty then [] else [text]) ++ folders.map (· ++ "/")
      | next :: others =>
        if isDeep how next then pathsFrom how files folder false text (next :: others)
        else
          let starts := folders.filter fun path => match files.stat folder path false with
            | .ok (.link _) => false
            | _ => true
          (text :: starts.map (· ++ "/")).flatMap fun start =>
            pathsFrom how files folder false start (next :: others)
    else
      let isPattern := Pattern.isOpen how.form component
      let found := if isPattern then names how files folder text component
        else [String.ofList (Pattern.plainText component)]
      let plain := isPlain && !isPattern
      found.flatMap fun name =>
        pathsFrom how files folder plain (text ++ name ++ (if rest.isEmpty then "" else "/")) rest

/-- The paths that a field stands for, or its text if there are none. -/
def paths (how : Globbing) (files : FileTree) (folder : Path) (field : List Glyph) :
    List String :=
  if how.off || !Pattern.isOpen how.form field then [Glyph.text field]
  else
    match pathsFrom how files folder true "" (components field) with
    | [] => if how.dropsNone then [] else [Glyph.text field]
    | found => found.mergeSort fun a b => a ≤ b

/-- A glyph is a separator that is a blank. -/
def isBlankGlyph (separators : List Char) (g : Glyph) : Bool :=
  !g.quoted && isBlankSeparator separators g.char

/-- The part of a line that goes to the first of several variables, and the rest. -/
def firstOf (separators : List Char) (line : List Glyph) : List Glyph × List Glyph :=
  let isBlank := isBlankGlyph separators
  let isSeparator := fun (g : Glyph) => !g.quoted && separators.contains g.char
  let line := line.dropWhile isBlank
  let field := line.takeWhile fun g => !isSeparator g
  let rest := (line.drop field.length).dropWhile isBlank
  let rest := if rest.head?.any isSeparator then (rest.drop 1).dropWhile isBlank else rest
  (field, rest)

/-- The values that some variables take from a line. The last one takes all that is left, but no
single separator at its end. -/
def values (separators : List Char) : List String → List Glyph → List (String × String)
  | [], _ => []
  | [name], line =>
    let (field, rest) := firstOf separators line
    let isBlank := isBlankGlyph separators
    let whole := ((line.dropWhile isBlank).reverse.dropWhile isBlank).reverse
    [(name, Glyph.text (if rest.isEmpty then field else whole))]
  | name :: names, line =>
    let (field, rest) := firstOf separators line
    (name, Glyph.text field) :: values separators names rest

/-- The glyphs of a line that is read. Unless it is `raw`, a backslash protects the character after
it. -/
def lineGlyphs (raw : Bool) : List Char → List Glyph
  | '\\' :: c :: rest =>
    if raw then ⟨'\\', false⟩ :: lineGlyphs raw (c :: rest) else ⟨c, true⟩ :: lineGlyphs raw rest
  | c :: rest => ⟨c, false⟩ :: lineGlyphs raw rest
  | [] => []

end Field

end RemoteAttach.Shell
