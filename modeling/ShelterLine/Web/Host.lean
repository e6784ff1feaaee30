import ShelterLine.Text.Utf8
import ShelterLine.Web.Domain
import ShelterLine.Web.Percent

/-!
# Hosts

A host is named, or given by the number of its network address: four bytes between points, or eight
pieces between colons in brackets. Four bytes may also be given as fewer and larger numbers, in
octal or hexadecimal too; a name that ends in a number is always such an address. In brackets zeros
may be left out at one place, and the last two pieces may be four bytes.
-/

namespace ShelterLine

/-- A host. -/
inductive Host where
  | name (text : List Char)
  | four (address : Nat)
  | six (pieces : List Nat)
deriving DecidableEq

namespace Host

/-! ## Four bytes -/

/-- The value of digits in a base. -/
def valueIn (base : Nat) (digits : List Char) : Option Nat :=
  digits.foldlM (fun n c => do
    let d ← Text.hexValue? c
    if d < base then some (base * n + d) else none) 0

/-- A number in decimal, or in octal or hexadecimal with a zero in front. -/
def number? : List Char → Option Nat
  | [] => none
  | '0' :: 'x' :: digits => valueIn 16 digits
  | '0' :: digits => valueIn 8 digits
  | digits => valueIn 10 digits

/-- Labels without the empty one after a point at the end. -/
def dropRoot (labels : List (List Char)) : List (List Char) :=
  if labels.getLast? = some [] then labels.dropLast else labels

/-- Whether a name ends in a number. -/
def endsInNumber (labels : List (List Char)) : Bool :=
  match (dropRoot labels).getLast? with
  | some label => (label ≠ [] && label.all Char.isDigit) || (number? label).isSome
  | none => false

/-- The address that labels give: bytes, and a number for all the others. -/
def ofNumbers? (labels : List (List Char)) : Option Nat := do
  let numbers ← (dropRoot labels).mapM number?
  let bytes := numbers.dropLast
  let last ← numbers.getLast?
  guard (bytes.length < 4 && bytes.all (· < 256) && last < 1 <<< (8 * (4 - bytes.length)))
  some (bytes.foldl (fun n b => 256 * n + b) 0 <<< (8 * (4 - bytes.length)) + last)

/-- Numbers in decimal with points between them. -/
def renderFour (address : Nat) : List Char :=
  Domain.joined ([3, 2, 1, 0].map fun i => Nat.toDigits 10 (address >>> (8 * i) % 256))

/-! ## Eight pieces -/

/-- A byte in decimal without zeros in front. -/
def byte? (cs : List Char) : Option Nat := do
  guard (cs ≠ [] && cs.length ≤ 3 && cs.all Char.isDigit && (cs.head? ≠ some '0' || cs.length = 1))
  let n := Text.digitsValue cs
  if n < 256 then some n else none

/-- The two pieces that four bytes are. -/
def bytePieces? (cs : List Char) : Option (List Nat) :=
  match (Domain.labels cs).mapM byte? with
  | some [a, b, c, d] => some [256 * a + b, 256 * c + d]
  | _ => none

/-- A piece: up to four hexadecimal digits. -/
def piece? (cs : List Char) : Option Nat :=
  if cs = [] || cs.length > 4 then none else valueIn 16 cs

/-- Pieces between colons. -/
def pieceTexts : List Char → List (List Char)
  | [] => [[]]
  | c :: cs =>
    if c = ':' then [] :: pieceTexts cs
    else match pieceTexts cs with
      | [] => [[c]]
      | p :: ps => (c :: p) :: ps

/-- The values of pieces, the last of which may be four bytes. -/
def pieceValues? : List (List Char) → Option (List Nat)
  | [] => some []
  | [p] => if p.contains '.' then bytePieces? p else (piece? p).map ([·])
  | p :: ps => do
    let n ← piece? p
    let ns ← pieceValues? ps
    some (n :: ns)

/-- The text before and after the first two colons in a row. -/
def splitGap? : List Char → Option (List Char × List Char)
  | ':' :: ':' :: cs => some ([], cs)
  | c :: cs => (splitGap? cs).map fun (before, after) => (c :: before, after)
  | [] => none

/-- Pieces of a side of a gap, which may have none. -/
def sidePieces? (cs : List Char) : Option (List Nat) :=
  if cs = [] then some [] else pieceValues? (pieceTexts cs)

/-- Eight pieces. -/
def ofPieces? (cs : List Char) : Option (List Nat) :=
  match splitGap? cs with
  | none => do
    let pieces ← pieceValues? (pieceTexts cs)
    if pieces.length = 8 then some pieces else none
  | some (before, after) => do
    guard (!before.contains '.')
    let front ← sidePieces? before
    let back ← sidePieces? after
    if front.length + back.length < 8 then
      some (front ++ List.replicate (8 - front.length - back.length) 0 ++ back)
    else none

/-- The place and the length of the first of the longest runs of zeros; `place` is
where these pieces begin. -/
def longestZeros (place : Nat) : List Nat → Nat × Nat
  | [] => (place, 0)
  | p :: ps =>
    let here := ((p :: ps).takeWhile (· = 0)).length
    let later := longestZeros (place + 1) ps
    if here ≥ later.2 then (place, here) else later

/-- Pieces with colons between them. -/
def colons : List Nat → List Char
  | [] => []
  | [p] => Nat.toDigits 16 p
  | p :: ps => Nat.toDigits 16 p ++ ':' :: colons ps

/-- Pieces in brackets, without the longest run of zeros if that is more than one. -/
def renderSix (pieces : List Nat) : List Char :=
  let (place, length) := longestZeros 0 pieces
  '[' :: (if length < 2 then colons pieces
    else
      colons (pieces.take place) ++ "::".toList ++ colons (pieces.drop (place + length))) ++ [']']

/-! ## Reading and writing -/

/-- The text of a host. -/
def render : Host → List Char
  | name text => text
  | four address => renderFour address
  | six pieces => renderSix pieces

/-- The host in brackets. -/
def ofBrackets? (cs : List Char) : Option Host :=
  match cs.reverse with
  | ']' :: inner => (ofPieces? inner.reverse).map six
  | _ => none

/-- The host of an address of the web. It is not empty. -/
def ofWeb? : List Char → Option Host
  | '[' :: cs => ofBrackets? cs
  | cs => do
    let text ← Text.ofUtf8? (Percent.decodeBytes cs)
    let domain ← Domain.ofText? text
    let labels := Domain.labels domain
    if domain = [] then none
    else if endsInNumber labels then (ofNumbers? labels).map four
    else some (name domain)

/-- What stands for itself in a name that nobody looks up. -/
def isPlain (c : Char) : Bool := c.toNat ≥ 0x20 && c.toNat ≠ 0x7f

/-- The host of another address, which may be empty. -/
def ofOther? : List Char → Option Host
  | '[' :: cs => ofBrackets? cs
  | cs =>
    if cs.any fun c => c.toNat = 0 || " #/:<>?@[\\]^|".toList.contains c then none
    else some (name (Percent.encode isPlain cs))

end Host

end ShelterLine
