import ShelterLine.Text.Numeral

/-!
# Percent encoding

A byte that may not stand for itself in an address is written as a percent sign and two hexadecimal
digits. Characters beyond ASCII are written as the bytes of their UTF-8 form.
-/

namespace ShelterLine.Percent

/-- A byte as a percent sign and two upper-case digits. -/
def encodeByte (b : UInt8) : List Char :=
  '%' :: (Text.hexPadded 2 b.toNat).map Char.toUpper

/-- The text with every character that fails the test, and everything beyond ASCII, encoded. -/
def encode (stays : Char → Bool) (cs : List Char) : List Char :=
  cs.flatMap fun c =>
    if c.toNat < 0x80 && stays c then [c] else (String.utf8EncodeChar c).flatMap encodeByte

/-- The bytes of a text in which percent signs with two digits stand for bytes. Other percent signs
stand for themselves. -/
def decodeBytes : List Char → List UInt8
  | [] => []
  | '%' :: a :: b :: rest =>
    match Text.hexValue? a, Text.hexValue? b with
    | some x, some y => UInt8.ofNat (16 * x + y) :: decodeBytes rest
    | _, _ => 0x25 :: decodeBytes (a :: b :: rest)
  | c :: rest => String.utf8EncodeChar c ++ decodeBytes rest

end ShelterLine.Percent
