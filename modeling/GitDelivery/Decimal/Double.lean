set_option autoImplicit false

/-! Doubles and decimal text, both ways in exact arithmetic on natural numbers: the fewest digits
that read back as a double, and the double nearest to a decimal number. -/

namespace GitDelivery.Decimal

/-- A positive decimal number `0.d₁d₂…dₙ · 10^point` by its digits and the place of its point. -/
structure Digits where
  digits : List Nat
  point : Int
  deriving DecidableEq

/-- A positive double as `mantissa · 2^exponent`. -/
structure Binary where
  mantissa : Nat
  exponent : Int

/-- Mantissa and exponent of a double, without its sign. -/
def binaryOf (value : Float) : Binary :=
  let bits := value.toBits.toNat
  let fraction : Nat := bits % Nat.pow 2 52
  let biased : Nat := bits / Nat.pow 2 52 % Nat.pow 2 11
  if biased = 0 then ⟨fraction, -1074⟩ else ⟨Nat.pow 2 52 + fraction, Int.ofNat biased - 1075⟩

def isNegative (value : Float) : Bool :=
  value.toBits.toNat / Nat.pow 2 63 = 1

/-- The numerator and denominator of `numerator · base^power`. -/
def scale (numerator base : Nat) (power : Int) : Nat × Nat :=
  if 0 ≤ power then (numerator * Nat.pow base power.toNat, 1) else (numerator, Nat.pow base (-power).toNat)

/-- The real numbers that round to a double, as fractions over one denominator, and whether the
two ends belong to them. -/
structure Interval where
  low : Nat
  value : Nat
  high : Nat
  denominator : Nat
  closed : Bool

/-- Below a power of two the neighbour is twice as near. -/
def intervalOf (binary : Binary) : Interval :=
  let below := if binary.mantissa = Nat.pow 2 52 ∧ binary.exponent ≠ -1074 then 1 else 2
  let (factor, denominator) := scale 1 2 (binary.exponent - 2)
  { low := (4 * binary.mantissa - below) * factor
    value := 4 * binary.mantissa * factor
    high := (4 * binary.mantissa + 2) * factor
    denominator := denominator
    closed := binary.mantissa % 2 = 0 }

/-- Does `point · grid` (with `grid` a fraction) lie in the interval? -/
def Interval.holds (interval : Interval) (point gridNumerator gridDenominator : Nat) : Bool :=
  let left := point * gridNumerator * interval.denominator
  let low := interval.low * gridDenominator
  let high := interval.high * gridDenominator
  if interval.closed then low ≤ left && left ≤ high else low < left && left < high

/-- The decimal digits of a number, most significant first. -/
def digitsOf (number : Nat) : List Nat :=
  (Nat.toDigits 10 number).map fun c => c.toNat - '0'.toNat

/-- The point of the grid `10^power` in the interval that is nearest to its value; of two equally
near ones the even one. -/
def nearestOnGrid (interval : Interval) (power : Int) : Option Nat :=
  let (gridNumerator, gridDenominator) := scale 1 10 power
  let scaled := interval.value * gridDenominator
  let unit := gridNumerator * interval.denominator
  let floor := scaled / unit
  let rest := scaled - floor * unit
  let lower := interval.holds floor gridNumerator gridDenominator && 0 < floor
  let upper := interval.holds (floor + 1) gridNumerator gridDenominator
  let takeLower := 2 * rest < unit || (2 * rest = unit && floor % 2 = 0)
  match lower, upper with
  | true, true => some (if takeLower then floor else floor + 1)
  | true, false => some floor
  | false, true => some (floor + 1)
  | false, false => none

/-- The least `point` with `value < 10^point`, searched upwards from a lower bound. -/
def pointFrom (interval : Interval) : Nat → Int → Int
  | 0, point => point
  | fuel + 1, point =>
    let (numerator, denominator) := scale 1 10 point
    if interval.value * denominator < numerator * interval.denominator then point
    else pointFrom interval fuel (point + 1)

/-- Trying grids from coarse to fine, the first with a hit. -/
def shortestFrom (interval : Interval) (point : Int) : Nat → Nat → Digits
  | 0, _ => ⟨[], point⟩
  | fuel + 1, count =>
    match nearestOnGrid interval (point - count) with
    | some number =>
      let digits := digitsOf number
      { digits := (digits.reverse.dropWhile (· = 0)).reverse
        point := point - count + digits.length }
    | none => shortestFrom interval point fuel (count + 1)

/-- The fewest digits that read back as the given positive double. -/
def shortest (value : Float) : Digits :=
  let interval := intervalOf (binaryOf value)
  shortestFrom interval (pointFrom interval 700 (-330)) 20 1

/-- The double nearest to a positive fraction, ties to the even mantissa; nothing when it is too
large for a finite double. -/
def nearest? (numerator denominator : Nat) : Option Float :=
  if numerator = 0 then some 0
  else
    let guess : Int := (Nat.log2 numerator : Int) - Nat.log2 denominator - 52
    let fits (exponent : Int) : Nat × Nat :=
      let (up, down) := scale 1 2 (-exponent)
      (numerator * up, denominator * down)
    let (n, d) := fits guess
    let exponent := max (-1074) (if n < d * Nat.pow 2 52 then guess - 1 else guess)
    let (n, d) := fits exponent
    let floor := n / d
    let rest := n - floor * d
    let rounded :=
      if 2 * rest < d || (2 * rest = d && floor % 2 = 0) then floor else floor + 1
    let (mantissa, exponent) :=
      if rounded = Nat.pow 2 53 then (Nat.pow 2 52, exponent + 1) else (rounded, exponent)
    if 971 < exponent then none
    else
      let bits :=
        if mantissa < Nat.pow 2 52 then mantissa
        else (exponent + 1075).toNat * Nat.pow 2 52 + (mantissa - Nat.pow 2 52)
      some (Float.ofBits bits.toUInt64)

/-- The double nearest to `mantissa · 10^power`; nothing when it is too large. Powers far out of
range are decided without computing them. -/
def ofDecimal? (mantissa : Nat) (power : Int) : Option Float :=
  let size : Int := (Nat.toDigits 10 mantissa).length + power
  if mantissa = 0 then some 0
  else if 320 < size then none
  else if size < -360 then some 0
  else
    let (numerator, denominator) := scale mantissa 10 power
    nearest? numerator denominator

end GitDelivery.Decimal
