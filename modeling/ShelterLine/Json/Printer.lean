import ShelterLine.Json.Basic

/-!
# Writing JSON

The compact form, without a blank. A string escapes the quote, the backslash and the control
characters; everything else stands for itself. Whole numbers are written out, doubles by their
shortest decimal, without an exponent from a hundred-thousandth up to below ten to the sixteenth.
-/

namespace ShelterLine.Json

/-- A character of a string as it is written. -/
def escapeChar (c : Char) : List Char :=
  if c = '"' then ['\\', '"']
  else if c = '\\' then ['\\', '\\']
  else if c = '\n' then ['\\', 'n']
  else if c = '\r' then ['\\', 'r']
  else if c = '\t' then ['\\', 't']
  else if c = '\x08' then ['\\', 'b']
  else if c = '\x0c' then ['\\', 'f']
  else if c.toNat < 0x20 then
    ['\\', 'u', '0', '0', Nat.digitChar (c.toNat / 16), Nat.digitChar (c.toNat % 16)]
  else [c]

/-- A string with its quotes. -/
def renderString (s : String) : List Char :=
  '"' :: (s.toList.flatMap escapeChar ++ ['"'])

/-- Where doubles are written without an exponent. -/
def numberLayout : Decimal.Layout := ⟨-5, 15⟩

/-- A whole number in decimal. -/
def renderInt (n : Int) : List Char :=
  let digits := Nat.toDigits 10 n.natAbs
  if n < 0 then '-' :: digits else digits

/-- A number as it is written. -/
def Number.render : Number → List Char
  | .int n => renderInt n
  | .float x => Decimal.render .double numberLayout x

mutual

/-- The compact form of a value. -/
def render : Json → List Char
  | .null => "null".toList
  | .bool true => "true".toList
  | .bool false => "false".toList
  | .num n => n.render
  | .str s => renderString s
  | .arr [] => ['[', ']']
  | .arr (v :: vs) => '[' :: (render v ++ renderItems vs)
  | .obj [] => ['\x7b', '\x7d']
  | .obj ((k, v) :: fs) => '\x7b' :: (renderString k ++ ':' :: (render v ++ renderFields fs))

/-- The items after the first, with the closing bracket. -/
def renderItems : List Json → List Char
  | [] => [']']
  | v :: vs => ',' :: (render v ++ renderItems vs)

/-- The fields after the first, with the closing brace. -/
def renderFields : List (String × Json) → List Char
  | [] => ['\x7d']
  | (k, v) :: fs => ',' :: (renderString k ++ ':' :: (render v ++ renderFields fs))

end

/-- The compact form of a value, as text. -/
def compress (v : Json) : String := String.ofList v.render

end ShelterLine.Json
