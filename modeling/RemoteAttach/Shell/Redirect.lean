import RemoteAttach.Shell.Condition
import RemoteAttach.Shell.Expand

/-! Redirections: how files are opened for a command, and the words of a shell for those that cannot
be opened. -/

namespace RemoteAttach.Shell

namespace State

/-- The channel from which a file is read, with its number if it is open already. -/
def openToRead (s : State) (text : String) : Except FileError (Nat ⊕ Channel) := do
  match streamOfPath? text with
  | some stream =>
    match s.channel? stream with
    | some (index, _) => .ok (.inl index)
    | none => .error .notFound
  | none =>
    match ← s.files.stat s.folder text with
    | .folder _ => .ok (.inr .folder)
    | .file content _ => .ok (.inr (.source (Text.ofContent content) true))
    | .zeros => .ok (.inr .zeros)
    | .program _ => .ok (.inr (.source (Text.ofContent Node.programContent) true))
    | .link _ | .sink => .ok (.inr (.source [] false))

/-- The files and the channel through which a file is written, with its number if it is open
already. -/
def openToWrite (s : State) (text : String) (mode : WriteMode) :
    Except FileError (FileTree × (Nat ⊕ Channel)) := do
  match streamOfPath? text with
  | some stream =>
    match s.channel? stream with
    | some (index, _) => .ok (s.files, .inl index)
    | none => .error .notFound
  | none =>
    let path ← s.files.resolveNew s.folder text
    match s.files.lookup path with
    | some .sink => .ok (s.files, .inr .sink)
    | some .zeros => .ok (s.files, .inr .zeros)
    | some (.folder _) => .error .isDirectory
    | some (.file content _) =>
      match mode with
      | .fresh =>
        if s.on "noclobber" then .error .alreadyExists
        else .ok (← s.files.put path .empty, .inr (.file path 0 false))
      | .forced => .ok (← s.files.put path .empty, .inr (.file path 0 false))
      | .append => .ok (s.files, .inr (.file path content.size true))
      | .shared => .ok (s.files, .inr (.file path 0 false))
    | some (.program _) | some (.link _) => .error .permissionDenied
    | none =>
      let bits := 0o666 &&& (0o777 ^^^ s.mask)
      let files := s.files.add (.alone path (.file .empty bits))
      .ok (files, .inr (.file path 0 (mode = .append)))

/-- The state with a stream that leads to what has been opened. -/
def attach (s : State) (stream : Nat) : Nat ⊕ Channel → State
  | .inl index => s.connect stream index
  | .inr channel => s.openStream stream channel

end State

namespace Redirection

open Act

/-- The words of the smaller shell for a file that cannot be used. -/
def reasonOf (missing : String) (e : FileError) : String :=
  match e with
  | .notFound | .notDirectory => missing
  | _ => e.reason

/-- A word as it stands in a script, as far as that can be told. -/
def shown (word : Word) : String :=
  String.join (word.map fun part => match part with
    | .literal text _ => String.ofList text
    | .parameter (.named name) .keep _ => "$" ++ name
    | _ => "")

/-- Complains about a redirection, and tells that it is not possible. -/
def refuse (text : String) : Act Bool := do
  complain text
  match (← get).dialect with
  | .dash => finish 2
  | .bash => finish 1
  pure false

/-- The text that a redirection leads to, if it is one text. -/
def target (r : Runner) (word : Word) : Act (Option String) := do
  let s ← get
  match s.dialect with
  | .dash => pure (some (← Expand.textOf r word))
  | .bash =>
    let atoms ← r.expand {} (Expand.withHome s word)
    let s ← get
    match (Field.cut s.separators atoms).flatMap (Field.paths s.globbing s.files s.folder) with
    | [text] => pure (some text)
    | _ =>
      let _ ← refuse (shown word ++ ": ambiguous redirect")
      pure none

/-- Opens a file that is written, at some streams. -/
def openOut (streams : List Nat) (mode : WriteMode) (text : String) : Act Bool := do
  let s ← get
  match s.openToWrite text mode with
  | .error e =>
    match s.dialect with
    | .dash => refuse ("cannot create " ++ text ++ ": " ++ reasonOf "Directory nonexistent" e)
    | .bash =>
      refuse (text ++ ": " ++
        (if e = .alreadyExists then "cannot overwrite existing file" else e.reason))
  | .ok (files, opened) =>
    let s := { s with files }
    match streams with
    | [] => pure ()
    | first :: others =>
      let s := s.attach first opened
      set (others.foldl (fun s stream =>
        ((s.streams.lookup first).map (s.connect stream)).getD s) s)
    pure true

/-- A redirection of another stream. -/
def onStream (stream : Nat) : Redirect → Redirect
  | .read _ target => .read stream target
  | .write _ mode target => .write stream mode target
  | .copy _ target => .copy stream target
  | .text _ body => .text stream body
  | .named name change => .named name change
  | .writeBoth append target => .writeBoth append target

/-- The least number of a stream from some number on that is not open. -/
def freeStream (s : State) : Nat → Nat → Nat
  | 0, number => number
  | fuel + 1, number =>
    if (s.streams.lookup number).isSome then freeStream s fuel (number + 1) else number

/-- Takes a redirection of a stream with a number, and tells whether that was possible. -/
def takeNumbered (r : Runner) (change : Redirect) : Act Bool := do
  match change with
  | .named .. => pure false
  | .text stream body =>
    match ← observe (Expand.textOf r body), (← get).dialect with
    | .error .failure, .dash =>
      finish 2
      pure false
    | outcome, _ =>
      let text ← conclude outcome
      modify fun s => s.openStream stream (.source text.toList false)
      pure true
  | .read stream word =>
    match ← target r word with
    | none => pure false
    | some text =>
      let s ← get
      match s.openToRead text with
      | .error e =>
        match s.dialect with
        | .dash => refuse ("cannot open " ++ text ++ ": " ++ reasonOf "No such file" e)
        | .bash => refuse (text ++ ": " ++ e.reason)
      | .ok opened =>
        set (s.attach stream opened)
        pure true
  | .copy stream word =>
    match ← target r word with
    | none => pure false
    | some text =>
      let s ← get
      let moved := text.endsWith "-" && s.dialect = .bash
      let number := String.ofList (if moved then text.toList.dropLast else text.toList)
      if text = "-" then
        set (s.closeStream stream)
        pure true
      else
        match number.toNat? with
        | some source =>
          match s.streams.lookup source with
          | some index =>
            let s := s.connect stream index
            set (if moved && source ≠ stream then s.closeStream source else s)
            pure true
          | none => refuse (text ++ ": Bad file descriptor")
        | none =>
          if stream = 1 then openOut [1, 2] .fresh text
          else refuse (shown word ++ ": ambiguous redirect")
  | .write stream mode word =>
    match ← target r word with
    | none => pure false
    | some text => openOut [stream] mode text
  | .writeBoth append word =>
    match ← target r word with
    | none => pure false
    | some text => openOut [1, 2] (if append then .append else .fresh) text

/-- Takes a redirection, and tells whether that was possible. -/
def take (r : Runner) (change : Redirect) : Act Bool := do
  match change with
  | .named name (.copy _ [.literal ['-'] false]) =>
    match ((← get).text? name).bind String.toNat? with
    | some number =>
      modify (·.closeStream number)
      pure true
    | none => refuse (name ++ ": ambiguous redirect")
  | .named name change =>
    let s ← get
    let number := freeStream s s.streams.length 10
    if ← takeNumbered r (onStream number change) then
      assign name (toString number)
      pure true
    else pure false
  | change => takeNumbered r change

/-- A redirection whose target has been expanded. A stream that is copied must be a digit, which is
only seen here, where the shell tells the line up to which it has read. -/
def expanded (r : Runner) (change : Redirect) : Act Redirect := do
  let text := fun (word : Word) => do
    let text ← Expand.textOf r (Expand.withHome (← get) word)
    pure [Part.literal text.toList true]
  match change with
  | .read stream word => pure (.read stream (← text word))
  | .write stream mode word => pure (.write stream mode (← text word))
  | .copy stream word =>
    match ← text word with
    | [.literal [c] true] =>
      if c.isDigit || c = '-' then pure (.copy stream [.literal [c] true]) else refuseNumber
    | _ => refuseNumber
  | change => pure change
where
  /-- Refuses what is no stream. -/
  refuseNumber : Act Redirect := do
    modify fun s => { s with line := s.reached }
    fail "Syntax error: Bad fd number"

/-- Takes redirections up to one that is not possible, and tells whether there was none. -/
def takeEach (r : Runner) : List Redirect → Act Bool
  | [] => pure true
  | change :: rest => do
    if ← take r change then takeEach r rest else pure false

/-- Takes redirections, and tells whether that was possible. The smaller shell expands them all
before it takes the first one. -/
def takeAll (r : Runner) (changes : List Redirect) : Act Bool := do
  match (← get).dialect with
  | .dash => takeEach r (← changes.mapM (expanded r))
  | .bash => takeEach r changes

/-- Does an action with some redirections. If one is not possible, `otherwise` is done. -/
def during (r : Runner) (changes : List Redirect) (action otherwise : Act Unit) : Act Unit := do
  if changes.isEmpty then action
  else
    let before := (← get).streams
    let outcome ← observe do
      if ← takeAll r changes then action else otherwise
    modify fun s => { s with streams := before }
    conclude outcome

end Redirection

end RemoteAttach.Shell
