import RemoteAttach.Shell.Words

/-! The tokens of a shell script. A word that is an alias is replaced by its text before it is
looked at again. -/

namespace RemoteAttach.Shell.Reading

/-- What the next token may be, besides a plain word or operator. -/
structure Look where
  /-- Line ends before it are passed over. -/
  newlines : Bool := false
  keywords : Bool := false
  aliases : Bool := false

/-- Where a command may begin. -/
def Look.start : Look := ⟨true, true, true⟩

/-- Reads the next token as it stands, and tells whether the alias before it allows another one. -/
def rawToken (deeper : Deeper) : Reading (Token × Bool) := do
  let before := (← rest).length
  skipBlanks
  let src ← get
  let chained := src.replaced.any fun (_, after, chains) =>
    chains && after < before && src.rest.length ≤ after
  set { src with replaced := src.replaced.filter fun (_, after, _) => after < src.rest.length }
  beginToken
  let t ← match src.rest with
    | [] => pure Token.ending
    | '\n' :: _ =>
      skip 1
      pure .newline
    | text =>
      match redirect? src.dialect text, redirectNamed? src.dialect text with
      | some (digits, op), _ =>
        skip (digits.length + op.length)
        if src.dialect = .dash then
          let _ ← peek
        pure (.redirect (String.ofList digits).toNat? op)
      | none, some (name, op) =>
        skip (name.length + 2 + op.length)
        pure (.redirectNamed (String.ofList name) op)
      | none, none =>
        let isOperator := fun (op : String) =>
          op.toList.isPrefixOf text
        match (operators src.dialect).find? isOperator with
        | some op =>
          skip op.length
          pure (.op op)
        | none => pure (.word (← wholeWord deeper))
  pure (t, chained)

/-- Puts the text of an alias before what is left. -/
def pushAlias (name value : String) : Reading Unit :=
  modify fun src => { src with
    rest := value.toList ++ src.rest
    replaced := (name, src.rest.length, value.endsWith " ") :: src.replaced }

/-- Reads the next token, through as many aliases and line ends as the fuel allows. -/
def tokenFrom (deeper : Deeper) (look : Look) : Nat → Reading Token
  | 0 => pure .ending
  | fuel + 1 => do
    let src ← get
    let (t, expands) ← match src.pushed with
      | some t =>
        set { src with pushed := none }
        pure (t, false)
      | none => do
        let (t, chained) ← rawToken deeper
        pure (t, look.aliases || chained)
    match t with
    | .newline => if look.newlines then tokenFrom deeper look fuel else pure t
    | .word word =>
      match word.plain? with
      | none => pure t
      | some text =>
        if look.keywords && (keywords src.dialect).contains text then pure (.keyword text)
        else
          let value := if expands then
              src.aliases.find? fun (name, _) =>
                name = text && !src.replaced.any fun (used, after, _) =>
                  used = name && after < src.rest.length
            else none
          match value with
          | some (name, value) =>
            pushAlias name value
            tokenFrom deeper look fuel
          | none => pure t
    | t => pure t

/-- Reads the next token. -/
def token (deeper : Deeper) (look : Look := {}) : Reading Token := do
  tokenFrom deeper look ((← rest).length + 1000)

/-- The token is the given keyword or operator. -/
def Token.isText (wanted : String) : Token → Bool
  | .keyword text | .op text => text = wanted
  | _ => false

/-- Reads a keyword or operator that has to be next. -/
def expect (deeper : Deeper) (wanted : String) (look : Look := {}) : Reading Unit := do
  let t ← token deeper look
  if !Token.isText wanted t then unexpected t (some wanted)

/-- The keyword or operator ends a list of statements. -/
def Token.closes : Token → Bool
  | .keyword text | .op text => closers.contains text
  | _ => false

end RemoteAttach.Shell.Reading
