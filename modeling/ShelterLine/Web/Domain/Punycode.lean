import ShelterLine.Text.Range

/-!
# Labels as ASCII

A label with characters beyond ASCII is written as its ASCII characters, a hyphen, and a row of
distances. The other characters are put into the ASCII ones one by one, the least first, and a
distance says how many places lie between one of them and the next when the places of a label are
gone through once for every code point. Distances are written with 36 digits, the lowest first.
Which digits end a distance depends on how large the distances before it were.
-/

namespace ShelterLine.Punycode

/-! ## Digits -/

/-- The letters and then the decimal digits. -/
def digits : List Char := "abcdefghijklmnopqrstuvwxyz0123456789".toList

/-- The digit with a value. -/
def digitChar (d : Nat) : Char := digits.getD d 'a'

/-- The value of a digit. -/
def digitValue? (c : Char) : Option Nat := digits.findIdx? (· = c.toLower)

/-- The least digit that does not end a distance when it comes after `index` others. -/
def threshold (bias index : Nat) : Nat := max 1 (min 26 (36 * (index + 1) - bias))

theorem threshold_pos (bias index : Nat) : 0 < threshold bias index := by
  unfold threshold
  omega

/-- The bias for distances of about this size. -/
def biasFor (size : Nat) : Nat :=
  if size ≤ 455 then 36 * size / (size + 38) else 36 + biasFor (size / 35)
termination_by size
decreasing_by omega

/-- The bias after a distance, the first of which is large, in a label of `count` characters. -/
def nextBias (first : Bool) (distance count : Nat) : Nat :=
  let size := distance / (if first then 700 else 2)
  biasFor (size + size / count)

/-- The bias in front of all distances. -/
def firstBias : Nat := 72

/-- The code point in front of all that are put in. -/
def firstCode : Nat := 0x80

/-! ## Writing -/

/-- The digits of a distance after `index` others. -/
def writeDistance (bias index distance : Nat) : List Char :=
  let t := threshold bias index
  if distance < t then [digitChar distance]
  else digitChar (t + (distance - t) % (36 - t))
    :: writeDistance bias (index + 1) ((distance - t) / (36 - t))
termination_by distance
decreasing_by
  have := threshold_pos bias index
  exact Nat.lt_of_le_of_lt (Nat.div_le_self _ _) (by omega)

/-- The code points that are put in, each with its place among those that are there by then: as many
characters of the label are in front of it as are in front and not greater. -/
def insertions (front : List Char) : List Char → List (Nat × Nat)
  | [] => []
  | c :: cs =>
    let rest := insertions (c :: front) cs
    if c.toNat < firstCode then rest else (c.toNat, front.countP (· ≤ c)) :: rest

/-- Writes how far it is to each code point; `code` and `place` are where the last one has left off,
in a label of `count` characters. -/
def writeInsertions (first : Bool) (bias code place count : Nat) : List (Nat × Nat) → List Char
  | [] => []
  | (m, p) :: rest =>
    let distance := (m - code) * (count + 1) + p - place
    writeDistance bias 0 distance
      ++ writeInsertions false (nextBias first distance (count + 1)) m (p + 1) (count + 1) rest

/-- How a label is written. -/
def encode (label : List Char) : List Char :=
  let basic := label.filter fun c => c.toNat < firstCode
  let ordered := (insertions [] label).mergeSort fun a b => a.1 ≤ b.1
  (if basic = [] then [] else basic ++ ['-'])
    ++ writeInsertions true firstBias firstCode 0 basic.length ordered

/-! ## Reading -/

/-- A label while it is read. Its last character was put in before `start`, and `place`
goes on from there with the digits of a distance; `index` of them are read, and the next
counts `weight` times. -/
structure Reading where
  label : List Char
  bias : Nat := firstBias
  code : Nat := firstCode
  start : Nat := 0
  place : Nat := 0
  index : Nat := 0
  weight : Nat := 1

/-- Numbers are read as far as they fit 32 bits. -/
def limit : Nat := 4294967296

/-- Whether a number is the code point of a character. -/
def isCodePoint (n : Nat) : Bool := n < 0xD800 || (0xDFFF < n && n < 0x110000)

/-- Puts in the character that a distance leads to. -/
def Reading.putIn? (r : Reading) : Option Reading :=
  let count := r.label.length + 1
  let code := r.code + r.place / count
  let place := r.place % count
  if isCodePoint code then
    some {
      label := r.label.insertIdx place (Char.ofNat code)
      bias := nextBias (r.start = 0) (r.place - r.start) count
      code, start := place + 1, place := place + 1 }
  else none

/-- Reads a digit. -/
def Reading.digit? (r : Reading) (c : Char) : Option Reading := do
  let d ← digitValue? c
  let t := threshold r.bias r.index
  let r := { r with place := r.place + d * r.weight }
  guard (r.place < limit)
  if d < t then r.putIn?
  else
    let weight := r.weight * (36 - t)
    guard (weight < limit)
    some { r with index := r.index + 1, weight }

/-- The label that is written so. What stands before the last hyphen is meant as it is; a hyphen
with nothing before it is none. -/
def decode? (cs : List Char) : Option (List Char) := do
  let last := (cs.reverse.takeWhile (· ≠ '-')).reverse
  let basic := cs.take (cs.length - last.length - 1)
  let r ← (if basic = [] then cs else last).foldlM Reading.digit? { label := basic }
  if r.index = 0 then some r.label else none

end ShelterLine.Punycode
