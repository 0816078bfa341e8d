import DecoderHost.Decimal.Binary64

/-!
The shortest decimal of a double: of the decimals that round to it, those with the fewest digits, and of
these the nearest. A double reads back from every decimal in an interval around it, whose ends count when
the mantissa is even; on the grid of decimals with a given last place it is enough to look at the two
neighbours of the double. Of two neighbours equally near the greater counts.
-/

namespace DecoderHost.Decimal

/-- A decimal magnitude, `digits · 10 ^ power`. -/
structure Scaled where
  digits : Nat
  power : Int
  deriving DecidableEq, Repr

namespace Binary64

/-- Four times a double and the ends of the interval that rounds to it, over a common denominator: lower
end, value, upper end, denominator. Below a power of two the doubles are twice as dense. -/
def interval (x : Binary64) : Nat × Nat × Nat × Nat :=
  let (p, q) := powerOfTwo x.exponent
  let below := if x.mantissa = Nat.pow 2 52 ∧ x.exponent > leastExponent then 1 else 2
  ((4 * x.mantissa - below) * p, 4 * x.mantissa * p, (4 * x.mantissa + 2) * p, 4 * q)

/-- The decimal on the grid `10 ^ power` that is nearest to a double and rounds to it; a tie goes up. -/
def onGrid? (x : Binary64) (power : Int) : Option Scaled :=
  let (low, value, high, den) := x.interval
  let scale := Nat.pow 10 power.natAbs
  let (num, den) := if 0 ≤ power then (1, den * scale) else (scale, den)
  let (low, value, high) := (low * num, value * num, high * num)
  let isInside (d : Nat) : Bool :=
    if x.mantissa % 2 = 0 then low ≤ d * den && d * den ≤ high
    else low < d * den && d * den < high
  let floor := value / den
  let ceiling := floor + 1
  let floorIn := floor ≠ 0 && isInside floor
  let nearerCeiling := ceiling * den - value ≤ value - floor * den
  if floorIn && !(isInside ceiling && nearerCeiling) then some ⟨floor, power⟩
  else if isInside ceiling then some ⟨ceiling, power⟩
  else none

/-- The position of the leading decimal digit of a double, or one below it. -/
def leadingPlace (x : Binary64) : Int :=
  let (p, q) := powerOfTwo x.exponent
  let (num, den) := (x.mantissa * p, q)
  if den ≤ num then (digitCount (num / den) : Int) - 1
  else - (digitCount (den / num) : Int)

/-- The first grid with a hit, from the coarse ones down. -/
def search (x : Binary64) : Nat → Int → Option Scaled
  | 0, _ => none
  | steps + 1, power =>
    match x.onGrid? power with
    | some d => some d
    | none => search x steps (power - 1)

/-- The shortest decimal of a positive double. -/
def shortest (x : Binary64) : Scaled :=
  (x.search 20 (x.leadingPlace + 1)).getD ⟨0, 0⟩

end Binary64

/-- A decimal in positional notation with at least one digit on either side of the point. -/
def Scaled.positional (d : Scaled) : String :=
  let digits := Nat.toDigits 10 d.digits
  if 0 ≤ d.power then String.ofList (digits ++ List.replicate d.power.toNat '0' ++ ['.', '0'])
  else
    let places := (-d.power).toNat
    let padded := List.replicate (places + 1 - digits.length) '0' ++ digits
    let whole := padded.take (padded.length - places)
    String.ofList (whole ++ ['.'] ++ padded.drop (padded.length - places))

end DecoderHost.Decimal
