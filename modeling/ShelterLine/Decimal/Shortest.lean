import ShelterLine.Decimal.Binary

/-!
# The shortest decimal that reads back

Every number of a binary format lies in an interval of numbers that round to it. Of the decimals in
that interval the ones with the fewest digits are the shortest, and the nearest of those is written.
Only the two neighbours of the number on the grid of `n` digits have to be looked at: if the grid
meets the interval at all, one of them lies in it.
-/

namespace ShelterLine.Decimal

/-- The number `digits · 10 ^ exponent`. -/
structure Scaled where
  digits : Nat
  exponent : Int
deriving DecidableEq, Repr

/-- A positive binary fraction as a quotient, with the ends of its interval over the
same denominator. -/
structure Interval where
  low : Nat
  value : Nat
  high : Nat
  den : Nat
  closed : Bool

/-- The numbers that round to a fraction. Below a power of two the lower half is narrower. -/
def intervalOf (f : BinaryFormat) (x : BinaryFraction) : Interval :=
  let m := x.significand
  let scale := if x.exponent ≥ 0 then 1 <<< x.exponent.toNat else 1
  let den := if x.exponent ≥ 0 then 4 else 4 <<< (-x.exponent).toNat
  let below := if m = 1 <<< (f.bits - 1) && x.exponent > f.least then 1 else 2
  ⟨(4 * m - below) * scale, 4 * m * scale, (4 * m + 2) * scale, den, m % 2 = 0⟩

/-- Whether `d · 10 ^ e` lies in the interval. -/
def Interval.holds (i : Interval) (d : Nat) (e : Int) : Bool :=
  let up := if e ≥ 0 then Nat.pow 10 e.toNat else 1
  let down := if e ≥ 0 then 1 else Nat.pow 10 (-e).toNat
  let x := d * up * i.den
  if i.closed then i.low * down ≤ x && x ≤ i.high * down
  else i.low * down < x && x < i.high * down

/-- Places after the point until the first digit that is not zero, for a quotient below one. -/
def leadingPlaces (num den : Nat) : Nat → Nat
  | 0 => 0
  | room + 1 => if den ≤ 10 * num then 1 else 1 + leadingPlaces (10 * num) den room

/-- The greatest `e` with `10 ^ e ≤ num / den`, for positive numbers. -/
def floorLog10 (num den : Nat) : Int :=
  if den ≤ num then (Nat.toDigits 10 (num / den)).length - 1
  else -(leadingPlaces num den 400 : Int)

/-- The nearer of the number's neighbours on the grid `10 ^ e` that lie in the interval. -/
def Interval.onGrid? (i : Interval) (e : Int) : Option Scaled :=
  let up := if e ≥ 0 then Nat.pow 10 e.toNat else 1
  let down := if e ≥ 0 then 1 else Nat.pow 10 (-e).toNat
  let num := i.value * down
  let den := i.den * up
  let d := num / den
  let lower := i.holds d e
  let upper := i.holds (d + 1) e
  if lower && (!upper || 2 * (num % den) ≤ den) then some ⟨d, e⟩
  else if upper then some ⟨d + 1, e⟩
  else none

/-- The first grid, from coarse to fine, that has a decimal in the interval. -/
def Interval.search (i : Interval) (e : Int) : Nat → Scaled
  | 0 => ⟨i.value / i.den, 0⟩
  | room + 1 => match i.onGrid? e with
    | some s => s
    | none => i.search (e - 1) room

/-- The shortest decimal that rounds to a positive fraction of a format. -/
def shortest (f : BinaryFormat) (x : BinaryFraction) : Scaled :=
  let i := intervalOf f x
  i.search (floorLog10 i.value i.den) 18

/-- How a number is laid out: the powers of ten that are written without an exponent. -/
structure Layout where
  leastPlain : Int
  greatestPlain : Int

/-- Digits without the zeros at their end, and how many those were. -/
def dropZeros : List Char → List Char × Nat
  | [] => ([], 0)
  | c :: cs => match dropZeros cs with
    | ([], n) => if c = '0' then ([], n + 1) else ([c], n)
    | (ds, n) => (c :: ds, n)

/-- Digits with a point after the first `places` of them, padded with zeros on either side. -/
def pointed (digits : List Char) (places : Int) : List Char :=
  if places ≤ 0 then "0.".toList ++ List.replicate (-places).toNat '0' ++ digits
  else
    let n := places.toNat
    let whole := digits.take n ++ List.replicate (n - digits.length) '0'
    let rest := digits.drop n
    whole ++ '.' :: (if rest = [] then ['0'] else rest)

/-- The digits of a decimal with an exponent of ten. -/
def withExponent (digits : List Char) (power : Int) : List Char :=
  let mantissa := match digits with
    | [] => ['0']
    | [d] => [d]
    | d :: ds => d :: '.' :: ds
  let sign := if power < 0 then '-' else '+'
  mantissa ++ 'e' :: sign :: Nat.toDigits 10 power.natAbs

/-- Writes a fraction of a format by its shortest decimal. -/
def render (f : BinaryFormat) (layout : Layout) (x : BinaryFraction) : List Char :=
  let sign := if x.negative then ['-'] else []
  if x.significand = 0 then sign ++ "0.0".toList
  else
    let s := shortest f x
    let (digits, dropped) := dropZeros (Nat.toDigits 10 s.digits)
    let power := s.exponent + dropped + digits.length - 1
    sign ++ if layout.leastPlain ≤ power && power ≤ layout.greatestPlain
      then pointed digits (power + 1) else withExponent digits power

end ShelterLine.Decimal
