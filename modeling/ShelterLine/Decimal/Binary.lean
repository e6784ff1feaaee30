/-!
# Binary fractions

A binary fraction is a signed whole number of units, each a power of two. A format bounds the number
of bits and the exponents; every decimal rounds to the nearest fraction of a format, and half-way
cases go to the even neighbour.
-/

namespace ShelterLine

/-- The number `significand · 2 ^ exponent`, with a sign that zero has too. -/
structure BinaryFraction where
  negative : Bool
  significand : Nat
  exponent : Int
deriving DecidableEq, Repr

/-- How many bits a significand has, and the least and greatest exponent. -/
structure BinaryFormat where
  bits : Nat
  least : Int
  greatest : Int

/-- The format of double precision. -/
def BinaryFormat.double : BinaryFormat := ⟨53, -1074, 971⟩

/-- The format of single precision. -/
def BinaryFormat.single : BinaryFormat := ⟨24, -149, 104⟩

/-- The nearest whole number to a quotient, half-way cases to the even one. -/
def roundQuotient (num den : Nat) : Nat :=
  let q := num / den
  let r := num % den
  if 2 * r < den then q
  else if den < 2 * r then q + 1
  else if q % 2 = 0 then q else q + 1

/-- The greatest `e` with `2 ^ e ≤ num / den`, for positive numbers. -/
def floorLog2 (num den : Nat) : Int :=
  let guess : Int := (num.log2 : Int) - den.log2
  let fits := if guess ≥ 0 then den <<< guess.toNat ≤ num else den ≤ num <<< (-guess).toNat
  if fits then guess else guess - 1

/-- The fraction of the format nearest to `num / den`, unless that is beyond the greatest. -/
def BinaryFormat.round (f : BinaryFormat) (negative : Bool) (num den : Nat) :
    Option BinaryFraction :=
  if num = 0 then some ⟨negative, 0, f.least⟩
  else
    let unit := max f.least (floorLog2 num den - (f.bits - 1))
    let m :=
      if unit ≥ 0 then roundQuotient num (den <<< unit.toNat)
      else roundQuotient (num <<< (-unit).toNat) den
    let (m, unit) := if m = 1 <<< f.bits then (1 <<< (f.bits - 1), unit + 1) else (m, unit)
    if unit > f.greatest then none else some ⟨negative, m, unit⟩

/-- The fraction of the format nearest to `digits · 10 ^ exponent`. Far outside of what the formats
hold the answer is known without the power of ten. -/
def BinaryFormat.ofDecimal (f : BinaryFormat) (negative : Bool) (digits : Nat) (exponent : Int) :
    Option BinaryFraction :=
  let magnitude : Int := exponent + (Nat.toDigits 10 digits).length
  if digits = 0 || magnitude < -400 then some ⟨negative, 0, f.least⟩
  else if magnitude > 400 then none
  else if exponent ≥ 0 then f.round negative (digits * Nat.pow 10 exponent.toNat) 1
  else f.round negative digits (Nat.pow 10 (-exponent).toNat)

/-- The fraction of the format nearest to another fraction. -/
def BinaryFormat.ofFraction (f : BinaryFormat) (x : BinaryFraction) : Option BinaryFraction :=
  if x.exponent ≥ 0 then f.round x.negative (x.significand <<< x.exponent.toNat) 1
  else f.round x.negative x.significand (1 <<< (-x.exponent).toNat)

/-- The whole part, without the sign. -/
def BinaryFraction.wholePart (x : BinaryFraction) : Nat :=
  if x.exponent ≥ 0 then x.significand <<< x.exponent.toNat
  else x.significand >>> (-x.exponent).toNat

/-- Whether the fraction is a whole number. -/
def BinaryFraction.isWhole (x : BinaryFraction) : Bool :=
  x.exponent ≥ 0 || x.significand % (1 <<< (-x.exponent).toNat) = 0

end ShelterLine
