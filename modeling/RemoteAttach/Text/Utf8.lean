/-! Texts and their bytes. Reading a file as text is strict; reading the output of a command is
lenient, and puts U+FFFD for each longest run of bytes that begins no character. -/

namespace RemoteAttach.Text

/-- The bytes of a text. -/
def bytes (text : String) : List UInt8 :=
  text.toUTF8.toList

/-- The range of the second byte of a character that begins with `lead`, and the number of bytes
that follow the lead, or nothing if no longer character begins with it. -/
def leadOf (lead : UInt8) : Option (UInt8 × UInt8 × Nat) :=
  if 0xC2 ≤ lead && lead ≤ 0xDF then some (0x80, 0xBF, 1)
  else if lead == 0xE0 then some (0xA0, 0xBF, 2)
  else if lead == 0xED then some (0x80, 0x9F, 2)
  else if 0xE1 ≤ lead && lead ≤ 0xEF then some (0x80, 0xBF, 2)
  else if lead == 0xF0 then some (0x90, 0xBF, 3)
  else if 0xF1 ≤ lead && lead ≤ 0xF3 then some (0x80, 0xBF, 3)
  else if lead == 0xF4 then some (0x80, 0x8F, 3)
  else none

/-- What the next byte of an unfinished character must be: its range, the code so far, and the
number of bytes that are due after it. -/
structure Unfinished where
  low : UInt8
  high : UInt8
  code : Nat
  due : Nat

/-- The character that replaces what cannot be read. -/
def replacement : Char := '\uFFFD'

/-- Reads a byte that begins a character: the finished character or the start of a longer one. -/
def beginChar (b : UInt8) : List Char × Option Unfinished :=
  if b < 0x80 then ([Char.ofNat b.toNat], none)
  else match leadOf b with
    | none => ([replacement], none)
    | some (low, high, 1) => ([], some ⟨low, high, b.toNat - 0xC0, 0⟩)
    | some (low, high, 2) => ([], some ⟨low, high, b.toNat - 0xE0, 1⟩)
    | some (low, high, _) => ([], some ⟨low, high, b.toNat - 0xF0, 2⟩)

/-- The characters of the bytes that follow an unfinished character, if there is one. -/
def lenientAfter : Option Unfinished → List UInt8 → List Char
  | none, [] => []
  | some _, [] => [replacement]
  | none, b :: rest =>
    let (read, next) := beginChar b
    read ++ lenientAfter next rest
  | some part, b :: rest =>
    if part.low ≤ b && b ≤ part.high then
      let code := part.code * 64 + (b.toNat - 0x80)
      match part.due with
      | 0 => Char.ofNat code :: lenientAfter none rest
      | due + 1 => lenientAfter (some ⟨0x80, 0xBF, code, due⟩) rest
    else
      let (read, next) := beginChar b
      replacement :: read ++ lenientAfter next rest

/-- The text of any bytes, with U+FFFD for what is no character. -/
def lenient (bytes : List UInt8) : String :=
  String.ofList (lenientAfter none bytes)

/-- The text of bytes that are well-formed throughout. -/
def strict? (bytes : ByteArray) : Option String :=
  String.fromUTF8? bytes

end RemoteAttach.Text
