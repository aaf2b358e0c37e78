import RemoteAttach.Tool.Dump

/-! Digests of files: short numbers that tell one content from another. Each takes the bytes in
blocks and mixes every block into a state of some words. -/

namespace RemoteAttach.Tool

open Shell Act

namespace Digest

/-- Bytes with the mark that ends them, zeros up to the end of a block, and their number of bits. -/
def padded (block lengthBytes : Nat) (big : Bool) (bytes : List Nat) : List Nat :=
  let bits := 8 * bytes.length
  let used := (bytes.length + 1 + lengthBytes) % block
  let zeros := if used = 0 then 0 else block - used
  let length := (List.range lengthBytes).map fun i => bits / Nat.pow 256 i % 256
  bytes ++ 0x80 :: List.replicate zeros 0 ++ (if big then length.reverse else length)

/-- A number of bytes, of which the first one counts most. -/
def bigNumber (bytes : List Nat) : Nat :=
  bytes.foldl (fun n b => n * 256 + b) 0

/-- A word of 32 bits turned left. -/
def left32 (x : UInt32) (n : UInt32) : UInt32 :=
  (x <<< n) ||| (x >>> (32 - n))

/-- A word of 64 bits turned right. -/
def right64 (x : UInt64) (n : UInt64) : UInt64 :=
  (x >>> n) ||| (x <<< (64 - n))

/-- The words of a digest as hexadecimal digits. -/
def hex32 (words : List UInt32) : String :=
  String.join (words.map fun w => paddedDigits 16 8 w.toNat)

/-- The constants of the rounds of the digest of 128 bits. -/
def roundWords : Array UInt32 :=
  #[0xd76aa478, 0xe8c7b756, 0x242070db, 0xc1bdceee, 0xf57c0faf, 0x4787c62a,
    0xa8304613, 0xfd469501, 0x698098d8, 0x8b44f7af, 0xffff5bb1, 0x895cd7be,
    0x6b901122, 0xfd987193, 0xa679438e, 0x49b40821, 0xf61e2562, 0xc040b340,
    0x265e5a51, 0xe9b6c7aa, 0xd62f105d, 0x02441453, 0xd8a1e681, 0xe7d3fbc8,
    0x21e1cde6, 0xc33707d6, 0xf4d50d87, 0x455a14ed, 0xa9e3e905, 0xfcefa3f8,
    0x676f02d9, 0x8d2a4c8a, 0xfffa3942, 0x8771f681, 0x6d9d6122, 0xfde5380c,
    0xa4beea44, 0x4bdecfa9, 0xf6bb4b60, 0xbebfbc70, 0x289b7ec6, 0xeaa127fa,
    0xd4ef3085, 0x04881d05, 0xd9d4d039, 0xe6db99e5, 0x1fa27cf8, 0xc4ac5665,
    0xf4292244, 0x432aff97, 0xab9423a7, 0xfc93a039, 0x655b59c3, 0x8f0ccc92,
    0xffeff47d, 0x85845dd1, 0x6fa87e4f, 0xfe2ce6e0, 0xa3014314, 0x4e0811a1,
    0xf7537e82, 0xbd3af235, 0x2ad7d2bb, 0xeb86d391]

/-- The turns of the rounds of the digest of 128 bits. -/
def turns : Array UInt32 :=
  #[7, 12, 17, 22, 5, 9, 14, 20, 4, 11, 16, 23, 6, 10, 15, 21]

/-- The digest of 128 bits. -/
def md5 (bytes : List Nat) : String :=
  let all := padded 64 8 false bytes
  let mix := fun (st : UInt32 × UInt32 × UInt32 × UInt32) (block : List Nat) =>
    let words := ((chunks 4 16 block).map fun b => UInt32.ofNat (littleNumber b)).toArray
    let (a, b, c, d) := (List.range 64).foldl (fun (a, b, c, d) i =>
      let (f, g) := match i / 16 with
        | 0 => ((b &&& c) ||| (~~~b &&& d), i)
        | 1 => ((d &&& b) ||| (~~~d &&& c), (5 * i + 1) % 16)
        | 2 => (b ^^^ c ^^^ d, (3 * i + 5) % 16)
        | _ => (c ^^^ (b ||| ~~~d), 7 * i % 16)
      let f := f + a + roundWords.getD i 0 + words.getD g 0
      (d, b + left32 f (turns.getD (i / 16 * 4 + i % 4) 0), b, c)) st
    (st.1 + a, st.2.1 + b, st.2.2.1 + c, st.2.2.2 + d)
  let (a, b, c, d) := (chunks 64 (all.length + 1) all).foldl mix
    (0x67452301, 0xefcdab89, 0x98badcfe, 0x10325476)
  String.join ([a, b, c, d].map fun w =>
    String.join ((List.range 4).map fun i => paddedDigits 16 2 (w.toNat / Nat.pow 256 i % 256)))

/-- The digest of 160 bits. -/
def sha1 (bytes : List Nat) : String :=
  let all := padded 64 8 true bytes
  let mix := fun (st : UInt32 × UInt32 × UInt32 × UInt32 × UInt32) (block : List Nat) =>
    let first := ((chunks 4 16 block).map fun b => UInt32.ofNat (bigNumber b)).toArray
    let words := (List.range 64).foldl (fun (ws : Array UInt32) i =>
      let at_ := fun (n : Nat) => ws.getD (i + n) 0
      ws.push (left32 (at_ 13 ^^^ at_ 8 ^^^ at_ 2 ^^^ at_ 0) 1)) first
    let (a, b, c, d, e) := (List.range 80).foldl (fun (a, b, c, d, e) i =>
      let (f, k) : UInt32 × UInt32 := match i / 20 with
        | 0 => ((b &&& c) ||| (~~~b &&& d), 0x5a827999)
        | 1 => (b ^^^ c ^^^ d, 0x6ed9eba1)
        | 2 => ((b &&& c) ||| (b &&& d) ||| (c &&& d), 0x8f1bbcdc)
        | _ => (b ^^^ c ^^^ d, 0xca62c1d6)
      (left32 a 5 + f + e + k + words.getD i 0, a, left32 b 30, c, d)) st
    (st.1 + a, st.2.1 + b, st.2.2.1 + c, st.2.2.2.1 + d, st.2.2.2.2 + e)
  let (a, b, c, d, e) := (chunks 64 (all.length + 1) all).foldl mix
    (0x67452301, 0xefcdab89, 0x98badcfe, 0x10325476, 0xc3d2e1f0)
  hex32 [a, b, c, d, e]

/-- The constants of the rounds of the digests of 256 bits. -/
def words256 : Array UInt32 :=
  #[0x428a2f98, 0x71374491, 0xb5c0fbcf, 0xe9b5dba5, 0x3956c25b, 0x59f111f1,
    0x923f82a4, 0xab1c5ed5, 0xd807aa98, 0x12835b01, 0x243185be, 0x550c7dc3,
    0x72be5d74, 0x80deb1fe, 0x9bdc06a7, 0xc19bf174, 0xe49b69c1, 0xefbe4786,
    0x0fc19dc6, 0x240ca1cc, 0x2de92c6f, 0x4a7484aa, 0x5cb0a9dc, 0x76f988da,
    0x983e5152, 0xa831c66d, 0xb00327c8, 0xbf597fc7, 0xc6e00bf3, 0xd5a79147,
    0x06ca6351, 0x14292967, 0x27b70a85, 0x2e1b2138, 0x4d2c6dfc, 0x53380d13,
    0x650a7354, 0x766a0abb, 0x81c2c92e, 0x92722c85, 0xa2bfe8a1, 0xa81a664b,
    0xc24b8b70, 0xc76c51a3, 0xd192e819, 0xd6990624, 0xf40e3585, 0x106aa070,
    0x19a4c116, 0x1e376c08, 0x2748774c, 0x34b0bcb5, 0x391c0cb3, 0x4ed8aa4a,
    0x5b9cca4f, 0x682e6ff3, 0x748f82ee, 0x78a5636f, 0x84c87814, 0x8cc70208,
    0x90befffa, 0xa4506ceb, 0xbef9a3f7, 0xc67178f2]

/-- The state in which the digest of 256 bits begins. -/
def start256 : List UInt32 :=
  [0x6a09e667, 0xbb67ae85, 0x3c6ef372, 0xa54ff53a,
    0x510e527f, 0x9b05688c, 0x1f83d9ab, 0x5be0cd19]

/-- The state in which the digest of 224 bits begins. -/
def start224 : List UInt32 :=
  [0xc1059ed8, 0x367cd507, 0x3070dd17, 0xf70e5939,
    0xffc00b31, 0x68581511, 0x64f98fa7, 0xbefa4fa4]

/-- The words of the digest of 256 bits from a state in which it begins. -/
def sha256From (start : List UInt32) (bytes : List Nat) : List UInt32 :=
  let all := padded 64 8 true bytes
  let right := fun (x : UInt32) (n : UInt32) => left32 x (32 - n)
  let mix := fun (st : List UInt32) (block : List Nat) =>
    let first := ((chunks 4 16 block).map fun b => UInt32.ofNat (bigNumber b)).toArray
    let words := (List.range 48).foldl (fun (ws : Array UInt32) i =>
      let x := ws.getD (i + 1) 0
      let y := ws.getD (i + 14) 0
      let s := right x 7 ^^^ right x 18 ^^^ (x >>> 3)
      let t := right y 17 ^^^ right y 19 ^^^ (y >>> 10)
      ws.push (ws.getD i 0 + s + ws.getD (i + 9) 0 + t)) first
    let step := fun (st : List UInt32) (i : Nat) =>
      match st with
      | [a, b, c, d, e, f, g, h] =>
        let s := right e 6 ^^^ right e 11 ^^^ right e 25
        let choice := (e &&& f) ^^^ (~~~e &&& g)
        let t := h + s + choice + words256.getD i 0 + words.getD i 0
        let u := right a 2 ^^^ right a 13 ^^^ right a 22
        let most := (a &&& b) ^^^ (a &&& c) ^^^ (b &&& c)
        [t + u + most, a, b, c, d + t, e, f, g]
      | other => other
    List.zipWith (· + ·) st ((List.range 64).foldl step st)
  (chunks 64 (all.length + 1) all).foldl mix start

/-- The digest of 256 bits. -/
def sha256 (bytes : List Nat) : String :=
  hex32 (sha256From start256 bytes)

/-- The digest of 224 bits. -/
def sha224 (bytes : List Nat) : String :=
  hex32 ((sha256From start224 bytes).take 7)

/-- The constants of the rounds of the digests of 512 bits. -/
def words512 : Array UInt64 :=
  #[0x428a2f98d728ae22, 0x7137449123ef65cd, 0xb5c0fbcfec4d3b2f, 0xe9b5dba58189dbbc,
    0x3956c25bf348b538, 0x59f111f1b605d019, 0x923f82a4af194f9b, 0xab1c5ed5da6d8118,
    0xd807aa98a3030242, 0x12835b0145706fbe, 0x243185be4ee4b28c, 0x550c7dc3d5ffb4e2,
    0x72be5d74f27b896f, 0x80deb1fe3b1696b1, 0x9bdc06a725c71235, 0xc19bf174cf692694,
    0xe49b69c19ef14ad2, 0xefbe4786384f25e3, 0x0fc19dc68b8cd5b5, 0x240ca1cc77ac9c65,
    0x2de92c6f592b0275, 0x4a7484aa6ea6e483, 0x5cb0a9dcbd41fbd4, 0x76f988da831153b5,
    0x983e5152ee66dfab, 0xa831c66d2db43210, 0xb00327c898fb213f, 0xbf597fc7beef0ee4,
    0xc6e00bf33da88fc2, 0xd5a79147930aa725, 0x06ca6351e003826f, 0x142929670a0e6e70,
    0x27b70a8546d22ffc, 0x2e1b21385c26c926, 0x4d2c6dfc5ac42aed, 0x53380d139d95b3df,
    0x650a73548baf63de, 0x766a0abb3c77b2a8, 0x81c2c92e47edaee6, 0x92722c851482353b,
    0xa2bfe8a14cf10364, 0xa81a664bbc423001, 0xc24b8b70d0f89791, 0xc76c51a30654be30,
    0xd192e819d6ef5218, 0xd69906245565a910, 0xf40e35855771202a, 0x106aa07032bbd1b8,
    0x19a4c116b8d2d0c8, 0x1e376c085141ab53, 0x2748774cdf8eeb99, 0x34b0bcb5e19b48a8,
    0x391c0cb3c5c95a63, 0x4ed8aa4ae3418acb, 0x5b9cca4f7763e373, 0x682e6ff3d6b2b8a3,
    0x748f82ee5defb2fc, 0x78a5636f43172f60, 0x84c87814a1f0ab72, 0x8cc702081a6439ec,
    0x90befffa23631e28, 0xa4506cebde82bde9, 0xbef9a3f7b2c67915, 0xc67178f2e372532b,
    0xca273eceea26619c, 0xd186b8c721c0c207, 0xeada7dd6cde0eb1e, 0xf57d4f7fee6ed178,
    0x06f067aa72176fba, 0x0a637dc5a2c898a6, 0x113f9804bef90dae, 0x1b710b35131c471b,
    0x28db77f523047d84, 0x32caab7b40c72493, 0x3c9ebe0a15c9bebc, 0x431d67c49c100d4c,
    0x4cc5d4becb3e42b6, 0x597f299cfc657e2a, 0x5fcb6fab3ad6faec, 0x6c44198c4a475817]

/-- The state in which the digest of 512 bits begins. -/
def start512 : List UInt64 :=
  [0x6a09e667f3bcc908, 0xbb67ae8584caa73b, 0x3c6ef372fe94f82b, 0xa54ff53a5f1d36f1,
    0x510e527fade682d1, 0x9b05688c2b3e6c1f, 0x1f83d9abfb41bd6b, 0x5be0cd19137e2179]

/-- The state in which the digest of 384 bits begins. -/
def start384 : List UInt64 :=
  [0xcbbb9d5dc1059ed8, 0x629a292a367cd507, 0x9159015a3070dd17, 0x152fecd8f70e5939,
    0x67332667ffc00b31, 0x8eb44a8768581511, 0xdb0c2e0d64f98fa7, 0x47b5481dbefa4fa4]

/-- The words of the digest of 512 bits from a state in which it begins. -/
def sha512From (start : List UInt64) (bytes : List Nat) : List UInt64 :=
  let all := padded 128 16 true bytes
  let mix := fun (st : List UInt64) (block : List Nat) =>
    let first := ((chunks 8 16 block).map fun b => UInt64.ofNat (bigNumber b)).toArray
    let words := (List.range 64).foldl (fun (ws : Array UInt64) i =>
      let x := ws.getD (i + 1) 0
      let y := ws.getD (i + 14) 0
      let s := right64 x 1 ^^^ right64 x 8 ^^^ (x >>> 7)
      let t := right64 y 19 ^^^ right64 y 61 ^^^ (y >>> 6)
      ws.push (ws.getD i 0 + s + ws.getD (i + 9) 0 + t)) first
    let step := fun (st : List UInt64) (i : Nat) =>
      match st with
      | [a, b, c, d, e, f, g, h] =>
        let s := right64 e 14 ^^^ right64 e 18 ^^^ right64 e 41
        let choice := (e &&& f) ^^^ (~~~e &&& g)
        let t := h + s + choice + words512.getD i 0 + words.getD i 0
        let u := right64 a 28 ^^^ right64 a 34 ^^^ right64 a 39
        let most := (a &&& b) ^^^ (a &&& c) ^^^ (b &&& c)
        [t + u + most, a, b, c, d + t, e, f, g]
      | other => other
    List.zipWith (· + ·) st ((List.range 80).foldl step st)
  (chunks 128 (all.length + 1) all).foldl mix start

/-- The words of a digest of long words as hexadecimal digits. -/
def hex64 (words : List UInt64) : String :=
  String.join (words.map fun w => paddedDigits 16 16 w.toNat)

/-- The digest of 512 bits. -/
def sha512 (bytes : List Nat) : String :=
  hex64 (sha512From start512 bytes)

/-- The digest of 384 bits. -/
def sha384 (bytes : List Nat) : String :=
  hex64 ((sha512From start384 bytes).take 6)

/-- A remainder after eight more bits. -/
def remainderStep (crc : UInt32) (byte : Nat) : UInt32 :=
  let start := crc ^^^ (UInt32.ofNat byte <<< 24)
  (List.range 8).foldl (fun (crc : UInt32) _ =>
    if crc &&& 0x80000000 = 0 then crc <<< 1 else (crc <<< 1) ^^^ 0x04c11db7) start

/-- The remainder of a file and its length. -/
def remainder (bytes : List Nat) : Nat :=
  let length := bytes.length
  let count := (List.range 8).map fun i => length / Nat.pow 256 i % 256
  let count := (count.reverse.dropWhile (· = 0)).reverse
  (~~~ ((bytes ++ count).foldl remainderStep 0)).toNat

/-- The sum of bytes of which each turns the sum before it by one bit. -/
def turningSum (bytes : List Nat) : Nat :=
  bytes.foldl (fun sum b => (sum / 2 + sum % 2 * 32768 + b) % 65536) 0

/-- The sum of bytes, of which what exceeds two bytes is added again. -/
def plainSum (bytes : List Nat) : Nat :=
  let sum := (bytes.foldl (· + ·) 0) % 4294967296
  let once := sum % 65536 + sum / 65536
  once % 65536 + once / 65536

end Digest

/-- Writes digests of files, or checks those that are written in files. -/
def digests (digest : List Nat → String) (args : List String) : Act Unit := do
  let f ← options {
    letters := "bctwz"
    names := [("binary", 'b', .nothing), ("check", 'c', .nothing), ("text", 't', .nothing),
      ("warn", 'w', .nothing), ("zero", 'z', .nothing), ("quiet", 'q', .nothing),
      ("status", 's', .nothing), ("tag", 'T', .nothing)] } args
  let files ← contents f.operands fun text e => deploreFile text e
  let digestOf := fun (text : List Char) => digest (text.map Char.toNat)
  if f.has 'c' then
    let outcomes ← files.mapM fun (_, text) => do
      let rows := (Text.allLines text).filterMap fun line =>
        match (String.ofList line).splitOn "  " with
        | sum :: (name :: more) => some (sum, String.intercalate "  " (name :: more))
        | _ => none
      rows.mapM fun (sum, name) => do
        match ← content name with
        | .error e =>
          deploreFile name e
          if !f.has 's' then writeLines [name ++ ": FAILED open or read"]
          pure (false, true)
        | .ok text =>
          let fine := digestOf text = sum.toLower
          if !f.has 's' && !(fine && f.has 'q') then
            writeLines [name ++ (if fine then ": OK" else ": FAILED")]
          pure (fine, false)
    let all := outcomes.flatten
    let unread := (all.filter (·.2)).length
    let wrong := (all.filter fun (fine, unread) => !fine && !unread).length
    let noun := fun (n : Nat) (one many : String) => if n = 1 then one else many
    if all.isEmpty then
      deplore (shown (f.operands.headD "-") ++ ": no properly formatted checksum lines found")
    if !f.has 's' then
      if unread ≠ 0 then
        complain ("WARNING: " ++ toString unread ++
          noun unread " listed file could not be read" " listed files could not be read")
      if wrong ≠ 0 then
        complain ("WARNING: " ++ toString wrong ++
          noun wrong " computed checksum did NOT match" " computed checksums did NOT match")
    if unread ≠ 0 || wrong ≠ 0 then finish 1
  else
    forAll files fun (name, text) =>
      writeLines [digestOf text ++ (if f.has 'b' then " *" else "  ") ++ name]
  closeInput "standard input" (orInput f.operands)

/-- Writes remainders and lengths of files. -/
def cksum (args : List String) : Act Unit := do
  let f ← options { letters := "" } args
  let files ← contents f.operands fun text e => deploreFile text e
  forAll files fun (name, text) =>
    let bytes := text.map Char.toNat
    writeLines [toString (Digest.remainder bytes) ++ " " ++ toString bytes.length ++
      (if f.operands.isEmpty then "" else " " ++ name)]
  closeInput "standard input" (orInput f.operands)

/-- Writes sums of files and the numbers of their blocks. -/
def sum (args : List String) : Act Unit := do
  let f ← options { letters := "rs", names := [("sysv", 's', .nothing)] } args
  let files ← contents f.operands fun text e => deploreFile text e
  let isPlain := f.last? ['r', 's'] = some 's'
  forAll files fun (name, text) =>
    let bytes := text.map Char.toNat
    let told := if f.operands.isEmpty then "" else " " ++ name
    let row := if isPlain then
        toString (Digest.plainSum bytes) ++ " " ++ toString ((bytes.length + 511) / 512)
      else
        paddedDigits 10 5 (Digest.turningSum bytes) ++ " " ++
          padLeft 5 (toString ((bytes.length + 1023) / 1024))
    writeLines [row ++ told]
  closeInput "standard input" (orInput f.operands)

end RemoteAttach.Tool
