/-!
# The calendar

Days are counted from the first of January of the year 0 of the Gregorian calendar, extended to all
years. A year is a leap year when 4 divides it, unless 100 does and 400 does not.
-/

namespace ShelterLine.Calendar

/-- Whether a year has 366 days. -/
def isLeap (year : Int) : Bool := year % 4 == 0 && (year % 100 != 0 || year % 400 == 0)

/-- The days of all years from 0 on before a year; negative for the years before 0. -/
def daysBefore (year : Int) : Int :=
  365 * year + (year + 3) / 4 - (year + 99) / 100 + (year + 399) / 400

/-- The year that a day lies in. An average year has 146097 / 400 days, so the quotient is at most
one year off. -/
def yearOf (day : Int) : Int :=
  let guess := 400 * day / 146097
  if daysBefore (guess + 1) ≤ day then guess + 1
  else if daysBefore guess ≤ day then guess
  else guess - 1

/-- The lengths of the months. -/
def monthLengths (leap : Bool) : List Nat :=
  [31, if leap then 29 else 28, 31, 30, 31, 30, 31, 31, 30, 31, 30, 31]

/-- The month, numbered from `month`, and the day of it that `day` days after the start of the
listed months fall on. -/
def locate (month : Nat) : (lengths : List Nat) → (day : Nat) → Nat × Nat
  | [], day => (month, day + 1)
  | n :: ns, day => if day < n then (month, day + 1) else locate (month + 1) ns (day - n)

/-- A day as year, month and day of the month. -/
structure Date where
  year : Int
  month : Nat
  day : Nat
deriving DecidableEq, Repr

/-- The date of a day. -/
def Date.ofDay (day : Int) : Date :=
  let year := yearOf day
  let (m, d) := locate 1 (monthLengths (isLeap year)) (day - daysBefore year).toNat
  ⟨year, m, d⟩

/-- The days of some months together. -/
def totalDays (lengths : List Nat) : Nat := lengths.foldr (· + ·) 0

/-- The day of a date, if the month has such a day. -/
def Date.toDay? (d : Date) : Option Int :=
  let lengths := monthLengths (isLeap d.year)
  match lengths[d.month - 1]? with
  | some n =>
    if 1 ≤ d.month ∧ 1 ≤ d.day ∧ d.day ≤ n then
      some (daysBefore d.year + totalDays (lengths.take (d.month - 1)) + (d.day - 1 : Nat))
    else none
  | none => none

/-- The first of January 1970. -/
def epoch : Int := daysBefore 1970

end ShelterLine.Calendar
