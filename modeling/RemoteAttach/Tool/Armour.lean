import RemoteAttach.Tool.Dump

/-! Programs that write the bytes of files in an alphabet whose characters stand for some bits each,
and read such texts. -/

namespace RemoteAttach.Tool

open Shell Act

/-- The characters that stand for six bits each. -/
def alphabet64 : List Char :=
  "ABCDEFGHIJKLMNOPQRSTUVWXYZabcdefghijklmnopqrstuvwxyz0123456789+/".toList

/-- Bytes in the alphabet. -/
def encode64 : List Nat → List Char
  | a :: b :: c :: rest =>
    let n := a * 65536 + b * 256 + c
    [n / 262144, n / 4096 % 64, n / 64 % 64, n % 64].map (fun i => alphabet64.getD i '=') ++
      encode64 rest
  | [a, b] =>
    let n := a * 65536 + b * 256
    [n / 262144, n / 4096 % 64, n / 64 % 64].map (fun i => alphabet64.getD i '=') ++ ['=']
  | [a] =>
    let n := a * 65536
    [n / 262144, n / 4096 % 64].map (fun i => alphabet64.getD i '=') ++ ['=', '=']
  | [] => []

/-- The bytes that are in up to four characters of six bits, without the last bits that fill no
byte. -/
def bytes64 (values : List Nat) : List Char :=
  let n := (values ++ List.replicate (4 - values.length) 0).foldl (fun n v => n * 64 + v) 0
  ([n / 65536, n / 256 % 256, n % 256].take (values.length * 3 / 4)).map Char.ofNat

/-- The characters that a text in the alphabet stands for, and whether all of it could be read. The
text may be made of several that have been filled up. -/
def decode64 : List Char → List Char × Bool
  | [] => ([], true)
  | a :: b :: c :: d :: rest =>
    let read := ([a, b, c, d].takeWhile alphabet64.contains).map alphabet64.idxOf
    let filled := read.length = 4 || (read.length = 3 && d = '=') ||
      (read.length = 2 && c = '=' && d = '=')
    if filled then
      let (text, whole) := decode64 rest
      (bytes64 read ++ text, whole)
    else (bytes64 read, false)
  | short =>
    (bytes64 ((short.takeWhile alphabet64.contains).map alphabet64.idxOf), false)

/-- The characters that stand for five bits each. -/
def alphabet32 : List Char :=
  "ABCDEFGHIJKLMNOPQRSTUVWXYZ234567".toList

/-- Bytes in the alphabet of five bits. -/
def encode32 (bytes : List Nat) : List Char :=
  (chunks 5 (bytes.length + 1) bytes).flatMap fun block =>
    let n := (block ++ List.replicate (5 - block.length) 0).foldl (fun n b => n * 256 + b) 0
    let digits := (List.range 8).map fun i => alphabet32.getD (n / Nat.pow 32 (7 - i) % 32) '='
    let used := (block.length * 8 + 4) / 5
    digits.take used ++ List.replicate (8 - used) '='

/-- The characters that a text in the alphabet of five bits stands for, and whether all of it could
be read. -/
def decode32 : Nat → List Char → List Char × Bool
  | 0, _ => ([], true)
  | fuel + 1, text =>
    if text.isEmpty then ([], true)
    else
      let block := text.take 8
      let values := (block.takeWhile alphabet32.contains).map alphabet32.idxOf
      let behind := block.drop values.length
      let count := values.length * 5 / 8
      let n := (values ++ List.replicate (8 - values.length) 0).foldl (fun n v => n * 32 + v) 0
      let decoded := (List.range count).map fun i =>
        Char.ofNat (n / Nat.pow 256 (4 - i) % 256)
      if values.length = 8 then
        let (rest, whole) := decode32 fuel (text.drop 8)
        (decoded ++ rest, whole)
      else
        let fills := block.length = 8 && behind.all (· = '=')
        if fills && [2, 4, 5, 7].contains values.length then
          let (rest, whole) := decode32 fuel (text.drop 8)
          (decoded ++ rest, whole)
        else (if block.length = 8 then decoded else [], false)

/-- Bytes as numbers of two digits. -/
def encode16 (bytes : List Nat) : List Char :=
  bytes.flatMap fun b => ((paddedDigits 16 2 b).toUpper).toList

/-- The characters that a text of numbers of two digits stands for, and whether all of it could be
read. -/
def decode16 : List Char → List Char × Bool
  | a :: b :: rest =>
    match if a.isLower || b.isLower then none else Text.digitsAfter 16 0 [a, b] with
    | some n =>
      let (text, whole) := decode16 rest
      (Char.ofNat n :: text, whole)
    | none => ([], false)
  | [] => ([], true)
  | _ => ([], false)

/-- Bytes as eight bits each, of which the first one counts most. -/
def encode2 (lastCountsMost : Bool) (bytes : List Nat) : List Char :=
  bytes.flatMap fun b =>
    let bits := (paddedDigits 2 8 b).toList
    if lastCountsMost then bits.reverse else bits

/-- The characters that a text of bits stands for, and whether all of it could be read. -/
def decode2 (lastCountsMost : Bool) (text : List Char) : List Char × Bool :=
  let blocks := chunks 8 (text.length + 1) text
  let isByte := fun (block : List Char) =>
    block.length = 8 && block.all fun c => c = '0' || c = '1'
  let read := blocks.takeWhile isByte
  (read.filterMap fun block =>
    (Text.digitsAfter 2 0 (if lastCountsMost then block.reverse else block)).map Char.ofNat,
    read.length = blocks.length)

/-- An alphabet for bytes, with what writes in it and what reads from it. -/
structure Armour where
  alphabet : List Char
  encode : List Nat → List Char
  decode : List Char → List Char × Bool

namespace Armour

/-- The alphabet of six bits. -/
def six : Armour := ⟨alphabet64, encode64, decode64⟩

/-- The alphabet of five bits. -/
def five : Armour := ⟨alphabet32, encode32, fun text => decode32 (text.length + 1) text⟩

/-- An alphabet that has other characters in the place of some. -/
def replacing (a : Armour) (old new : List Char) : Armour :=
  let swap := fun (old new : List Char) (c : Char) => ((old.zip new).lookup c).getD c
  -- A character that has been replaced is none of the alphabet any more.
  let back := fun (c : Char) =>
    if new.contains c then swap new old c else if old.contains c then '\x00' else c
  ⟨a.alphabet.map (swap old new), fun bytes => (a.encode bytes).map (swap old new),
    fun text => a.decode (text.map back)⟩

/-- The alphabets by the names of their options. -/
def named : List (String × Armour) :=
  let digits32 := "0123456789ABCDEFGHIJKLMNOPQRSTUV".toList
  [("base64", six), ("base64url", six.replacing ['+', '/'] ['-', '_']), ("base32", five),
    ("base32hex", five.replacing alphabet32 digits32),
    ("base16", ⟨"0123456789ABCDEF".toList, encode16, decode16⟩),
    ("base2msbf", ⟨['0', '1'], encode2 false, decode2 false⟩),
    ("base2lsbf", ⟨['0', '1'], encode2 true, decode2 true⟩)]

/-- The letter that stands for the option of an alphabet. -/
def letter (index : Nat) : Char := Char.ofNat ('0'.toNat + index)

/-- Writes bytes in an alphabet, or reads them from it. Without an alphabet an option has to name
one. -/
def run (usual : Option Armour) (args : List String) : Act Unit := do
  let names := if usual.isSome then [] else named.zipIdx.map fun ((name, _), index) =>
    (name, letter index, Takes.nothing)
  let (f, fault) ← optionsSoFar {
    letters := "diw:"
    names := [("decode", 'd', .nothing), ("ignore-garbage", 'i', .nothing),
      ("wrap", 'w', .value)] ++ names } args
  let (found, wrap) ← f.options.foldlM (fun (found, wrap) (c, text) => do
    if c = 'w' then
      match Whole.read (some 0) none text with
      | .fine n => pure (found, n.toNat)
      | .tooLarge => pure (found, 0)
      | _ => fail ("invalid wrap size: " ++ cited text)
    else
      match named[c.toNat - '0'.toNat]? with
      | some (_, a) => pure (if '0' ≤ c && c ≤ '9' then some a else found, wrap)
      | none => pure (found, wrap)) (usual, 76)
  if let some text := fault then misuse text
  let some a := found | misuse "missing encoding type"
  if let _ :: extra :: _ := f.operands then misuse ("extra operand " ++ cited extra)
  let operand := f.operands.headD "-"
  match ← content operand with
  | .error .isDirectory => deplore ("read error: " ++ FileError.isDirectory.reason)
  | .error .notOpen => deplore ("read error: " ++ FileError.notOpen.reason)
  | .error e => deploreFile operand e
  | .ok text =>
    if f.has 'd' then
      let kept := if f.has 'i' then text.filter fun c => c = '=' || a.alphabet.contains c
        else text.filter (· ≠ '\n')
      let (decoded, whole) := a.decode kept
      write decoded
      if !whole then fail "invalid input"
    else
      let encoded := a.encode (text.map Char.toNat)
      if wrap = 0 then write encoded
      else
        write ((chunks wrap (encoded.length + 1) encoded).flatMap fun line => line ++ ['\n'])

end Armour

end RemoteAttach.Tool
