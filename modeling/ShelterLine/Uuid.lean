import ShelterLine.Text.Numeral

/-!
# Identifiers

An identifier is 128 bits. It is written as 32 lower-case hexadecimal digits, with or without
hyphens after the 8th, 12th, 16th and 20th. Either form is read in any letter case, the hyphenated
one also in braces or as a URN. The name of the URN is read in any letter case as well.
-/

namespace ShelterLine

/-- An identifier of 128 bits. -/
structure Uuid where
  bits : BitVec 128
deriving DecidableEq, Repr

namespace Uuid

/-- The identifier with a given number. -/
def ofNat (n : Nat) : Uuid := ⟨BitVec.ofNat 128 n⟩

/-- The number of an identifier. -/
def toNat (u : Uuid) : Nat := u.bits.toNat

/-- The 32 digits without hyphens. -/
def simple (u : Uuid) : List Char := Text.hexPadded 32 u.toNat

/-- Puts hyphens between digits. -/
def hyphenate (ds : List Char) : List Char :=
  ds.take 8 ++ '-' :: (ds.drop 8).take 4 ++ '-' :: (ds.drop 12).take 4
    ++ '-' :: (ds.drop 16).take 4 ++ '-' :: ds.drop 20

/-- The hyphenated form. -/
def toChars (u : Uuid) : List Char := hyphenate u.simple

/-- The hyphenated form, as text. -/
def toString (u : Uuid) : String := String.ofList u.toChars

/-- The form without hyphens, as text. -/
def toSimpleString (u : Uuid) : String := String.ofList u.simple

instance : ToString Uuid := ⟨Uuid.toString⟩

/-- The value of a run of hexadecimal digits. -/
def hexNumber? (ds : List Char) : Option Nat :=
  ds.foldl (fun acc d => do pure (16 * (← acc) + (← Text.hexValue? d))) (some 0)

/-- Reads 32 digits. -/
def ofSimple? (ds : List Char) : Option Uuid :=
  if ds.length = 32 then (hexNumber? ds).map ofNat else none

/-- Reads digits with hyphens in their places. -/
def ofHyphenated? (cs : List Char) : Option Uuid :=
  let ds := cs.take 8 ++ (cs.drop 9).take 4 ++ (cs.drop 14).take 4 ++ (cs.drop 19).take 4
    ++ cs.drop 24
  if cs = hyphenate ds then ofSimple? ds else none

/-- What stands before an identifier written as a URN. -/
def urnHead : List Char := "urn:uuid:".toList

/-- Reads an identifier in any of its forms. -/
def ofChars? (cs : List Char) : Option Uuid :=
  match cs with
  | '\x7b' :: rest =>
    if rest.getLast? = some '\x7d' then ofHyphenated? rest.dropLast else none
  | _ =>
    if (cs.take 9).map Char.toLower = urnHead then ofHyphenated? (cs.drop 9)
    else if cs.length = 32 then ofSimple? cs
    else ofHyphenated? cs

/-- Reads an identifier in any of its forms, from text. -/
def ofString? (s : String) : Option Uuid := ofChars? s.toList

/-- The order of identifiers is that of their numbers. -/
instance : LE Uuid := ⟨fun u v => u.toNat ≤ v.toNat⟩

instance (u v : Uuid) : Decidable (u ≤ v) := inferInstanceAs (Decidable (u.toNat ≤ v.toNat))

end Uuid

end ShelterLine
