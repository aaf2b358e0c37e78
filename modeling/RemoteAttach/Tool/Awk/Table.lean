import Std.Data.HashMap

/-! Tables of the pattern language. The order in which a loop goes through a table depends on how
its keys are spread over chains: a key is put at the front of its chain, and moved there when it is
looked for. Whole numbers have chains of their own until the keys are needed as texts. -/

namespace RemoteAttach.Tool.Awk

/-- A table with values of some type. -/
structure Table (α : Type) where
  values : Std.HashMap String α := {}
  /-- The number of chains, less one. -/
  mask : Nat := 63
  /-- The chains of keys, of which those that are unused may be missing. -/
  texts : Std.HashMap Nat (List String) := {}
  /-- The chains of whole numbers. -/
  numbers : Std.HashMap Nat (List Int) := {}
  /-- The keys are all in chains of texts. -/
  spelled : Bool := false

namespace Table

variable {α : Type}

/-- The average length of chains beyond which their number is doubled. -/
def maxChain : Nat := 12

/-- The number that decides the chain of a key. -/
def hash (key : String) : UInt32 :=
  key.toList.foldl (fun h c => (h ^^^ UInt32.ofNat c.toNat) * 16777619) 2166136261

/-- The chain of a key. -/
def textChain (mask : Nat) (key : String) : Nat :=
  (hash key).toNat &&& mask

/-- The chain of a whole number. -/
def numberChain (mask : Nat) (n : Int) : Nat :=
  (UInt32.ofInt n).toNat &&& mask

/-- The number of keys. -/
def size (t : Table α) : Nat :=
  t.values.size

/-- Puts a key at the front of its chain. -/
def touch (t : Table α) (key : String) : Table α :=
  let chain := textChain t.mask key
  let keys := (t.texts.getD chain []).filter (· ≠ key)
  { t with texts := t.texts.insert chain (key :: keys) }

/-- The table with all its keys in chains of texts. -/
def spell (t : Table α) : Table α :=
  if t.spelled then t
  else
    let all := (List.range (t.mask + 1)).flatMap fun chain => t.numbers.getD chain []
    let t := { t with spelled := true }
    all.foldl (fun t n =>
      let key := toString n
      let chain := textChain t.mask key
      let keys := t.texts.getD chain []
      if keys.contains key then t else { t with texts := t.texts.insert chain (key :: keys) }) t

/-- The table with twice as many chains, if it has grown beyond them. -/
def grown (t : Table α) (count : Nat) : Table α :=
  if count ≤ maxChain * (t.mask + 1) then t
  else
    let mask := 2 * t.mask + 1
    let texts := (List.range (t.mask + 1)).foldl (fun (m : Std.HashMap Nat (List String)) chain =>
      let keys := t.texts.getD chain []
      let (stays, moves) := keys.partition fun key => textChain mask key = chain
      (m.insert chain stays).insert (chain + t.mask + 1) moves) {}
    let numbers := (List.range (t.mask + 1)).foldl (fun (m : Std.HashMap Nat (List Int)) chain =>
      let keys := t.numbers.getD chain []
      let (stays, moves) := keys.partition fun n => numberChain mask n = chain
      (m.insert chain stays).insert (chain + t.mask + 1) moves) {}
    { t with mask, texts, numbers }

/-- The value of a text, and the table after the text has been looked for. -/
def find (t : Table α) (key : String) : Option α × Table α :=
  let t := t.spell
  match t.values[key]? with
  | some value => (some value, t.touch key)
  | none => (none, t)

/-- The value of a whole number, and the table after it has been looked for. -/
def findNumber (t : Table α) (n : Int) : Option α × Table α :=
  let key := toString n
  let chain := numberChain t.mask n
  let numbers := t.numbers.getD chain []
  match t.values[key]? with
  | some value =>
    let t := if t.spelled && !numbers.contains n then t.touch key else t
    (some value, { t with numbers := t.numbers.insert chain (n :: numbers.filter (· ≠ n)) })
  | none => (none, t)

/-- The table with a value for a text. -/
def put (t : Table α) (key : String) (value : α) : Table α :=
  let t := t.spell
  let t := if t.values.contains key then t else t.grown (t.size + 1)
  let t := t.touch key
  { t with values := t.values.insert key value }

/-- The table with a value for a whole number. -/
def putNumber (t : Table α) (n : Int) (value : α) : Table α :=
  let key := toString n
  let known := t.values.contains key
  let t := if known then t else t.grown (t.size + 1)
  let t := if t.spelled && (!known || !(t.numbers.getD (numberChain t.mask n) []).contains n) then
    t.touch key else t
  let chain := numberChain t.mask n
  let numbers := (t.numbers.getD chain []).filter (· ≠ n)
  { t with
    values := t.values.insert key value, numbers := t.numbers.insert chain (n :: numbers) }

/-- The table without a key. -/
def erase (t : Table α) (key : String) : Table α :=
  if !t.values.contains key then t
  else if t.size = 1 then {}
  else
    let chain := textChain t.mask key
    let texts := t.texts.insert chain ((t.texts.getD chain []).filter (· ≠ key))
    let numbers := match key.toInt? with
      | some n =>
        let chain := numberChain t.mask n
        t.numbers.insert chain ((t.numbers.getD chain []).filter (toString · ≠ key))
      | none => t.numbers
    { t with texts, numbers, values := t.values.erase key }

/-- The keys, in the order of a loop. -/
def keys (t : Table α) : List String :=
  let t := t.spell
  (List.range (t.mask + 1)).flatMap fun chain => t.texts.getD chain []

/-- The table of the numbers from one on. -/
def ofList (values : List α) : Table α :=
  let rec masked (mask : Nat) : Nat → Nat
    | 0 => mask
    | fuel + 1 => if maxChain * (mask + 1) < values.length then masked (2 * mask + 1) fuel else mask
  let mask := masked 63 32
  values.zipIdx.foldl (fun (t : Table α) (value, i) =>
    let n : Int := (i : Int) + 1
    let chain := numberChain mask n
    { t with
      values := t.values.insert (toString n) value
      numbers := t.numbers.insert chain (n :: t.numbers.getD chain []) }) { mask }

end Table

end RemoteAttach.Tool.Awk
