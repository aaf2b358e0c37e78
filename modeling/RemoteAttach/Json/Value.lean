import RemoteAttach.Decimal.Binary64

/-! JSON values. The members of an object that is read stand by rising name, each name once; an
object that is built to be written has its members in the order of writing. -/

namespace RemoteAttach

/-- A number of a JSON text: a whole number of 64 bits, signed or not, or a floating-point
number. -/
inductive Json.Number where
  | integer (value : Int)
  | decimal (value : Decimal.Binary64)
  deriving DecidableEq, Repr

/-- A JSON value. -/
inductive Json where
  | null
  | bool (value : Bool)
  | number (value : Json.Number)
  | string (text : String)
  | array (items : List Json)
  | object (members : List (String × Json))
  deriving Repr

namespace Json

/-- A number is zero whatever its form and sign. -/
def Number.isZero : Number → Bool
  | .integer value => value == 0
  | .decimal value => value.magnitude.mantissa == 0

end Json

/-- Members by rising name, in the order of code points. -/
abbrev Members (α : Type) := List (String × α)

namespace Members

variable {α : Type}

/-- The members with `name` set to `value`, whether or not it was there. -/
def insert (name : String) (value : α) : Members α → Members α
  | [] => [(name, value)]
  | (n, v) :: rest =>
    if name = n then (name, value) :: rest
    else if name < n then (name, value) :: (n, v) :: rest
    else (n, v) :: insert name value rest

end Members

end RemoteAttach
