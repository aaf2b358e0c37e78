import RemoteAttach.Text.Utf8

/-! Texts in the form of bytes: each character stands for the byte of its code. Shells and the
programs they run work on bytes, and so count and cut them one by one. -/

namespace RemoteAttach.Text

/-- The text whose characters stand for the given bytes. -/
def ofBytes (content : List UInt8) : List Char :=
  content.map fun b => Char.ofNat b.toNat

/-- The bytes that the characters of a text stand for. -/
def toBytes (text : List Char) : List UInt8 :=
  text.map fun c => UInt8.ofNat c.toNat

/-- The form of a text in which each character stands for a byte. -/
def packed (text : String) : String :=
  String.ofList (ofBytes (bytes text))

/-- The text whose bytes the characters of a packed text stand for. -/
def unpacked (text : String) : String :=
  lenient (toBytes text.toList)

/-- The text in which each character stands for a byte of a file. -/
def ofContent (content : ByteArray) : List Char :=
  ofBytes content.toList

/-- The bytes of a file that the characters of a text stand for. -/
def toContent (text : List Char) : ByteArray :=
  ⟨(toBytes text).toArray⟩

end RemoteAttach.Text
