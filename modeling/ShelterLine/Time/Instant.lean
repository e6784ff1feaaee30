import ShelterLine.Time.Calendar

/-!
# Instants

An instant is a day, a second of that day and a nanosecond of that second, all in universal time. A
leap second is the second half of the last second of a minute: its nanoseconds begin at a milliard.
Instants are ordered by day, second and nanosecond.
-/

namespace ShelterLine

/-- A moment in universal time. -/
structure Instant where
  day : Int
  second : Nat
  nano : Nat
  second_lt : second < 86400
  nano_lt : nano < if second % 60 = 59 then 2000000000 else 1000000000
deriving DecidableEq, Repr

namespace Instant

/-- The instant with the given parts, if there is one. -/
def of? (day : Int) (second nano : Nat) : Option Instant :=
  if hs : second < 86400 then
    if hn : nano < if second % 60 = 59 then 2000000000 else 1000000000 then
      some ⟨day, second, nano, hs, hn⟩
    else none
  else none

/-- Midnight at the start of a day. -/
def midnight (day : Int) : Instant := ⟨day, 0, 0, by decide, by decide⟩

/-- The first day that an instant may lie in. -/
def firstDay : Int := Calendar.daysBefore (-262143)

/-- The last day that an instant may lie in. -/
def lastDay : Int := Calendar.daysBefore 262143 - 1

/-- The earliest instant. -/
def earliest : Instant := midnight firstDay

/-- The first of January 1970. -/
instance : Inhabited Instant := ⟨midnight Calendar.epoch⟩

/-- The order of instants. -/
instance : LE Instant := ⟨fun a b =>
  a.day < b.day ∨ a.day = b.day ∧ (a.second < b.second ∨ a.second = b.second ∧ a.nano ≤ b.nano)⟩

instance (a b : Instant) : Decidable (a ≤ b) :=
  inferInstanceAs (Decidable (_ ∨ _))

/-- The instant without what is less than a microsecond. -/
def toMicros (t : Instant) : Instant :=
  ⟨t.day, t.second, t.nano / 1000 * 1000, t.second_lt,
    Nat.lt_of_le_of_lt (Nat.div_mul_le_self _ _) t.nano_lt⟩

/-- The instant `n` seconds later, a leap second staying what it is only if the minutes agree. -/
def addSeconds (t : Instant) (n : Int) : Option Instant :=
  let total := t.day * 86400 + t.second + n
  of? (total / 86400) (total % 86400).toNat t.nano

end Instant

end ShelterLine
