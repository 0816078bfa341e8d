/-!
Double-precision numbers as exact fractions. A finite positive number is `mantissa · 2 ^ exponent` with a
mantissa below 2^53; `ofFraction` rounds a positive fraction to the nearest such number, ties to the even
mantissa.
-/

namespace DecoderHost.Decimal

/-- A magnitude in double precision. -/
structure Binary64 where
  mantissa : Nat
  exponent : Int
  deriving DecidableEq, Repr

/-- The quotient to the nearest whole number, ties to even. -/
def divideToEven (num den : Nat) : Nat :=
  let q := num / den
  let r := num % den
  if 2 * r < den then q
  else if 2 * r > den then q + 1
  else if q % 2 = 0 then q else q + 1

/-- A power of two as a fraction. -/
def powerOfTwo (e : Int) : Nat × Nat :=
  if 0 ≤ e then (Nat.pow 2 e.toNat, 1) else (1, Nat.pow 2 (-e).toNat)

/-- The position of the leading binary digit of a positive fraction. -/
def leadingBit (num den : Nat) : Int :=
  let guess : Int := num.log2 - den.log2
  let (p, q) := powerOfTwo guess
  if p * den ≤ num * q then guess else guess - 1

namespace Binary64

/-- The least exponent of a double. -/
def leastExponent : Int := -1074

/-- The greatest exponent of a double. -/
def greatestExponent : Int := 971

/-- The double nearest to a positive fraction, unless it is too large. -/
def ofFraction (num den : Nat) : Option Binary64 :=
  let exponent := max (leadingBit num den - 52) leastExponent
  let (p, q) := powerOfTwo exponent
  let mantissa := divideToEven (num * q) (den * p)
  let rounded : Binary64 :=
    if mantissa = Nat.pow 2 53 then ⟨Nat.pow 2 52, exponent + 1⟩ else ⟨mantissa, exponent⟩
  if rounded.exponent > greatestExponent then none else some rounded

/-- The number of decimal digits. -/
def digitCount (n : Nat) : Nat := (Nat.toDigits 10 n).length

/-- The double nearest to `digits · 10 ^ power`, unless it is too large. A number far outside the range is
settled by its size alone. -/
def ofDecimal (digits : Nat) (power : Int) : Option Binary64 :=
  if digits = 0 then some ⟨0, leastExponent⟩
  else
    let size := power + digitCount digits
    if size > 310 then none
    else if size < -330 then some ⟨0, leastExponent⟩
    else if 0 ≤ power then ofFraction (digits * Nat.pow 10 power.toNat) 1
    else ofFraction digits (Nat.pow 10 (-power).toNat)

end Binary64

end DecoderHost.Decimal
