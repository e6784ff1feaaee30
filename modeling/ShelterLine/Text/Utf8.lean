/-!
# UTF-8

Bytes are read as characters one after the other. Where they are no UTF-8 the longest beginning of a
character that stands there is one flaw, and reading goes on with the byte after it; a byte that no
character begins with is a flaw of its own.
-/

namespace ShelterLine.Text

/-- A character of which some bytes are still to come: how many, the range that the next one has to
lie in, and the bits so far. -/
structure OpenChar where
  missing : Nat
  low : Nat
  high : Nat
  bits : Nat

/-- What a byte says: it is the last of a character, more are to come, or it has no place. -/
inductive ByteRole where
  | last (c : Char)
  | opens (p : OpenChar)
  | flaw

/-- What a byte says at the beginning of a character. The ranges leave out overlong forms,
surrogates and what lies beyond the last code point. -/
def ByteRole.first (b : UInt8) : ByteRole :=
  let n := b.toNat
  if n < 0x80 then .last (Char.ofNat n)
  else if 0xC2 ≤ n && n ≤ 0xDF then .opens ⟨1, 0x80, 0xBF, n - 0xC0⟩
  else if n = 0xE0 then .opens ⟨2, 0xA0, 0xBF, 0⟩
  else if n = 0xED then .opens ⟨2, 0x80, 0x9F, 0xD⟩
  else if 0xE1 ≤ n && n ≤ 0xEF then .opens ⟨2, 0x80, 0xBF, n - 0xE0⟩
  else if n = 0xF0 then .opens ⟨3, 0x90, 0xBF, 0⟩
  else if 0xF1 ≤ n && n ≤ 0xF3 then .opens ⟨3, 0x80, 0xBF, n - 0xF0⟩
  else if n = 0xF4 then .opens ⟨3, 0x80, 0x8F, 4⟩
  else .flaw

/-- What a byte says within a character. -/
def OpenChar.role (p : OpenChar) (b : UInt8) : ByteRole :=
  if p.low ≤ b.toNat && b.toNat ≤ p.high then
    let bits := p.bits * 64 + (b.toNat - 0x80)
    if p.missing = 1 then .last (Char.ofNat bits)
    else .opens ⟨p.missing - 1, 0x80, 0xBF, bits⟩
  else .flaw

/-- What a byte says after a character that has begun, or else at the beginning of one. With it goes
the flaw that a character broken off is. -/
def roleAfter (started : Option OpenChar) (b : UInt8) : List (Option Char) × ByteRole :=
  match started with
  | none => ([], .first b)
  | some p => match p.role b with
    | .flaw => ([none], .first b)
    | role => ([], role)

/-- The characters that bytes write, and nothing for each flaw. -/
def utf8Chars (started : Option OpenChar) : List UInt8 → List (Option Char)
  | [] => match started with
    | none => []
    | some _ => [none]
  | b :: bs =>
    let (flaws, role) := roleAfter started b
    flaws ++ match role with
      | .last c => some c :: utf8Chars none bs
      | .opens p => utf8Chars (some p) bs
      | .flaw => none :: utf8Chars none bs

/-- The text of bytes that are UTF-8. -/
def ofUtf8? (bytes : List UInt8) : Option (List Char) := (utf8Chars none bytes).mapM id

/-- The text of any bytes, with the replacement character for each flaw. -/
def ofUtf8Lossy (bytes : List UInt8) : List Char :=
  (utf8Chars none bytes).map (·.getD '\ufffd')

end ShelterLine.Text
