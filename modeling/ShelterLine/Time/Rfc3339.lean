import ShelterLine.Text.Blank
import ShelterLine.Text.Numeral
import ShelterLine.Time.Instant

/-!
# Timestamps as text

An instant is written as in RFC 3339, in universal time. The fraction has three, six or nine digits,
the fewest that lose nothing, or always six where texts of one width are wanted. Years outside of 0
to 9999 carry a sign.

There are three readers. The exact one wants the digits of RFC 3339 in full and allows a
blank for the `T`. The lenient one allows blanks and single digits as well, signed years,
and an offset without its colon. The third reads a date and a time of day without an
offset, taken as universal time.
-/

namespace ShelterLine.Instant

open Text

/-! ## Writing -/

/-- Four digits, or a sign and at least four where four digits are not enough. -/
def writeYear (year : Int) : List Char :=
  if 0 ≤ year ∧ year ≤ 9999 then padded 4 year.toNat
  else
    let digits := Nat.toDigits 10 year.natAbs
    (if year < 0 then '-' else '+') :: (List.replicate (4 - digits.length) '0' ++ digits)

/-- How many digits a fraction of a second has. -/
inductive Precision where
  | shortest
  | micros

/-- The fraction of a second with its point. -/
def writeFraction (p : Precision) (nano : Nat) : List Char :=
  match p with
  | .micros => '.' :: padded 6 (nano / 1000)
  | .shortest =>
    if nano = 0 then []
    else if nano % 1000000 = 0 then '.' :: padded 3 (nano / 1000000)
    else if nano % 1000 = 0 then '.' :: padded 6 (nano / 1000)
    else '.' :: padded 9 nano

/-- The text of an instant. A leap second has the number 60. -/
def write (p : Precision) (t : Instant) : List Char :=
  let date := Calendar.Date.ofDay t.day
  let leap := t.nano / 1000000000
  writeYear date.year ++ '-' :: padded 2 date.month ++ '-' :: padded 2 date.day
    ++ 'T' :: padded 2 (t.second / 3600) ++ ':' :: padded 2 (t.second / 60 % 60)
    ++ ':' :: padded 2 (t.second % 60 + leap) ++ writeFraction p (t.nano % 1000000000) ++ ['Z']

/-- The shortest text that loses nothing. -/
def toString (t : Instant) : String := String.ofList (t.write .shortest)

/-- The text with six digits after the point, which texts of equal years are compared by. -/
def toStored (t : Instant) : String := String.ofList (t.write .micros)

/-! ## Reading -/

/-- Reads at least `least` and at most `most` digits. -/
def readNumber (least most : Nat) (cs : List Char) : Option (Nat × List Char) :=
  let ds := (cs.take most).takeWhile Char.isDigit
  if ds.length < least then none else some (digitsValue ds, cs.drop ds.length)

/-- Reads one given character. -/
def readChar (c : Char) : List Char → Option (List Char)
  | d :: cs => if d = c then some cs else none
  | [] => none

/-- Reads the fraction of a second, if there is one. Digits past the ninth are dropped. -/
def readFraction : List Char → Option (Nat × List Char)
  | '.' :: cs => do
    let ds := cs.takeWhile Char.isDigit
    if ds = [] then none
    let nine := ds.take 9
    some (digitsValue nine * Nat.pow 10 (9 - nine.length), cs.drop ds.length)
  | cs => some (0, cs)

/-- Drops colons and blanks. -/
def dropColons (cs : List Char) : List Char := cs.dropWhile fun c => c = ':' || isBlank c

/-- Reads an offset from universal time in seconds: a `Z`, or a sign, hours and minutes, with
`separator` between those two. -/
def readOffset (separator : List Char → Option (List Char)) (cs : List Char) :
    Option (Int × List Char) :=
  match cs with
  | 'Z' :: cs | 'z' :: cs => some (0, cs)
  | c :: cs => do
    let sign : Int ← if c = '+' then some 1 else if c = '-' || c = '\u2212' then some (-1) else none
    let (hours, cs) ← readNumber 2 2 cs
    let cs ← separator cs
    let (minutes, cs) ← readNumber 2 2 cs
    if minutes ≥ 60 || hours ≥ 24 then none
    some (sign * (hours * 3600 + minutes * 60), cs)
  | [] => none

/-- The parts of a timestamp as they are read. -/
structure Parts where
  year : Int
  month : Nat
  day : Nat
  hour : Nat
  minute : Nat
  second : Nat
  nano : Nat

/-- The instant with these parts at an offset from universal time. Second 60 is a leap second. -/
def Parts.toInstant? (p : Parts) (offset : Int) : Option Instant := do
  if p.hour ≥ 24 || p.minute ≥ 60 || p.second > 60 then none
  if p.year < -262143 || p.year > 262142 then none
  let day ← (Calendar.Date.mk p.year p.month p.day).toDay?
  let (second, nano) := if p.second = 60 then (59, 1000000000 + p.nano) else (p.second, p.nano)
  let local_ ← of? day (p.hour * 3600 + p.minute * 60 + second) nano
  let t ← local_.addSeconds (-offset)
  if firstDay ≤ t.day ∧ t.day ≤ lastDay then some t else none

/-- Reads a year that may have a sign, and with a sign any number of digits. -/
def readYear : List Char → Option (Int × List Char)
  | '-' :: cs => (readNumber 1 cs.length cs).map fun (n, cs) => (-(n : Int), cs)
  | '+' :: cs => (readNumber 1 cs.length cs).map fun (n, cs) => ((n : Int), cs)
  | cs => (readNumber 1 4 cs).map fun (n, cs) => ((n : Int), cs)

/-- Reads up to two digits after blanks. -/
def readTwo (cs : List Char) : Option (Nat × List Char) := readNumber 1 2 (trimStart cs)

/-- Reads a date leniently, with blanks before each number and, if `inner` says so, before each
hyphen. -/
def readDate (inner : List Char → List Char) (cs : List Char) :
    Option ((Int × Nat × Nat) × List Char) := do
  let (year, cs) ← readYear (trimStart cs)
  let cs ← readChar '-' (inner cs)
  let (month, cs) ← readTwo cs
  let cs ← readChar '-' (inner cs)
  let (day, cs) ← readTwo cs
  some ((year, month, day), cs)

/-- Reads a time of day leniently. -/
def readClock (inner : List Char → List Char) (cs : List Char) :
    Option ((Nat × Nat × Nat × Nat) × List Char) := do
  let (hour, cs) ← readTwo cs
  let cs ← readChar ':' (inner cs)
  let (minute, cs) ← readTwo cs
  let cs ← readChar ':' (inner cs)
  let (second, cs) ← readTwo cs
  let (nano, cs) ← readFraction cs
  some ((hour, minute, second, nano), cs)

/-- Drops the sign between date and time. -/
def readSeparator : List Char → Option (List Char)
  | 't' :: cs | 'T' :: cs | ' ' :: cs => some cs
  | _ => none

/-- Reads universal time by its name, or an offset. -/
def readZone (cs : List Char) : Option (Int × List Char) :=
  match cs with
  | u :: t :: c :: rest =>
    if [u, t, c].map Char.toUpper = ['U', 'T', 'C'] then some (0, rest)
    else readOffset (some ∘ dropColons) cs
  | _ => readOffset (some ∘ dropColons) cs

/-- The lenient reader. -/
def ofLenient? (cs : List Char) : Option Instant := do
  let ((year, month, day), cs) ← readDate trimStart cs
  let cs ← readSeparator cs
  let ((hour, minute, second, nano), cs) ← readClock trimStart cs
  let (offset, cs) ← readZone (trimStart cs)
  if isBlankText cs then Parts.toInstant? ⟨year, month, day, hour, minute, second, nano⟩ offset
  else none

/-- The exact reader. -/
def ofExact? (cs : List Char) : Option Instant := do
  let (year, cs) ← readNumber 4 4 cs
  let cs ← readChar '-' cs
  let (month, cs) ← readNumber 2 2 cs
  let cs ← readChar '-' cs
  let (day, cs) ← readNumber 2 2 cs
  let cs ← readSeparator cs
  let (hour, cs) ← readNumber 2 2 cs
  let cs ← readChar ':' cs
  let (minute, cs) ← readNumber 2 2 cs
  let cs ← readChar ':' cs
  let (second, cs) ← readNumber 2 2 cs
  let (nano, cs) ← readFraction cs
  let (offset, cs) ← readOffset (readChar ':') cs
  if cs = [] then Parts.toInstant? ⟨year, month, day, hour, minute, second, nano⟩ offset else none

/-- Reads a date and a time of day as universal time. -/
def ofPlain? (cs : List Char) : Option Instant := do
  let ((year, month, day), cs) ← readDate id cs
  let ((hour, minute, second, nano), cs) ← readClock id (trimStart cs)
  if cs = [] then Parts.toInstant? ⟨year, month, day, hour, minute, second, nano⟩ 0 else none

/-- Reads a timestamp leniently, from text. -/
def ofString? (s : String) : Option Instant := ofLenient? s.toList

/-- Reads a stored timestamp: exact or plain, and the earliest instant for anything else. -/
def ofStored (s : String) : Instant :=
  ((ofExact? s.toList).or (ofPlain? s.toList)).getD earliest

end ShelterLine.Instant
