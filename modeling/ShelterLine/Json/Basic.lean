import ShelterLine.Decimal.Shortest

/-!
# JSON values

A number is a whole number that fits 64 bits, signed or unsigned, or else a double. The fields of an
object keep their order.
-/

namespace ShelterLine

/-- A JSON number. -/
inductive Json.Number where
  | int (n : Int)
  | float (x : BinaryFraction)
deriving DecidableEq, Repr

/-- The number of a binary format nearest to a JSON number, unless that is beyond the greatest. -/
def Json.Number.round (f : BinaryFormat) : Json.Number → Option BinaryFraction
  | .int n => f.ofDecimal (n < 0) n.natAbs 0
  | .float x => f.ofFraction x

/-- A JSON value. -/
inductive Json where
  | null
  | bool (b : Bool)
  | num (n : Json.Number)
  | str (s : String)
  | arr (items : List Json)
  | obj (fields : List (String × Json))
deriving Repr, Inhabited

namespace Json

/-- A whole number as a value. -/
def int (n : Int) : Json := .num (.int n)

/-- A count as a value. -/
def nat (n : Nat) : Json := int n

/-- A text, or null. -/
def strOrNull : Option String → Json
  | some s => .str s
  | none => .null

/-- The field of an object. -/
def field? (name : String) : Json → Option Json
  | .obj fields => fields.lookup name
  | _ => none

/-- The text that a value is. -/
def text? : Json → Option String
  | .str s => some s
  | _ => none

/-- The items of a list. -/
def items? : Json → Option (List Json)
  | .arr items => some items
  | _ => none

/-- Puts a field where the order of names wants it, in place of one of the same name. -/
def insertField (name : String) (value : Json) : List (String × Json) → List (String × Json)
  | [] => [(name, value)]
  | (n, v) :: rest =>
    if name = n then (name, value) :: rest
    else if name < n then (name, value) :: (n, v) :: rest
    else (n, v) :: insertField name value rest

end Json

end ShelterLine
