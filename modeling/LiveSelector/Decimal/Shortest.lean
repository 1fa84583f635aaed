namespace LiveSelector.Decimal

/-!
The shortest decimal of a double.  A finite double stands for an exact fraction, and every
fraction in an interval around it reads back as that double.  The decimal of a double is the one
in that interval with the fewest digits, and of those the nearest; of two equally near ones it is
the one with an even last digit.
-/

/-- The size of a finite double: `mantissa` times two to `exponent`, the exponent lowered by
`offset` so that it is a natural number. -/
structure Magnitude where
  mantissa : Nat
  exponent : Nat
  deriving DecidableEq

/-- What the stored exponents are lowered by. -/
def offset : Nat := 1074

/-- The mantissa of a power of two, unless it is among the smallest doubles. -/
def firstMantissa : Nat := Nat.pow 2 52

def exponentBits (bits : UInt64) : Nat :=
  bits.toNat / firstMantissa % 2048

/-- Whether bits stand for a number, neither infinite nor undefined. -/
def isFinite (bits : UInt64) : Bool :=
  exponentBits bits < 2047

def isNegative (bits : UInt64) : Bool :=
  bits.toNat ≥ Nat.pow 2 63

/-- The size of the double that bits stand for. -/
def magnitude (bits : UInt64) : Magnitude :=
  let fraction := bits.toNat % firstMantissa
  let stored := exponentBits bits
  if stored = 0 then ⟨fraction, 0⟩ else ⟨firstMantissa + fraction, stored - 1⟩

/-- A digit string read as a whole number, times ten to an exponent. -/
structure Digits where
  digits : Nat
  exponent : Int
  deriving DecidableEq

/-- A double's size and the ends of its interval, in quarters of the last place, over a common
denominator.  The interval is half as wide below a power of two. -/
structure Interval where
  low : Nat
  value : Nat
  high : Nat
  denominator : Nat
  closed : Bool

def Magnitude.interval (size : Magnitude) : Interval :=
  let below := if size.mantissa = firstMantissa && size.exponent > 0 then 1 else 2
  let scale := Nat.pow 2 size.exponent
  { low := (4 * size.mantissa - below) * scale
    value := 4 * size.mantissa * scale
    high := (4 * size.mantissa + 2) * scale
    denominator := 4 * Nat.pow 2 offset
    closed := size.mantissa % 2 = 0 }

/-- Whether a multiple of a fraction lies in the interval. -/
def Interval.holds (interval : Interval) (candidate top bottom : Nat) : Bool :=
  let point := candidate * top * interval.denominator
  let low := interval.low * bottom
  let high := interval.high * bottom
  if interval.closed then low ≤ point && point ≤ high else low < point && point < high

/-- No double is smaller than ten to this power's inverse. -/
def smallest : Nat := 340

/-- How many places the whole part has; below one, minus the number of zeros after the point. -/
def Interval.places (interval : Interval) : Int :=
  let scaled := interval.value * Nat.pow 10 smallest / interval.denominator
  ((Nat.toDigits 10 scaled).length : Int) - smallest

/-- The multiple of ten to an exponent that lies in the interval and is nearest to its value. -/
def Interval.nearest? (interval : Interval) (exponent : Int) : Option Nat :=
  let top := Nat.pow 10 exponent.toNat
  let bottom := Nat.pow 10 (-exponent).toNat
  let whole := interval.value * bottom
  let unit := top * interval.denominator
  let down := whole / unit
  let rest := whole % unit
  match interval.holds down top bottom, interval.holds (down + 1) top bottom with
  | true, true =>
    some (if 2 * rest < unit || (2 * rest = unit && down % 2 = 0) then down else down + 1)
  | true, false => some down
  | false, true => some (down + 1)
  | false, false => none

/-- The first of the exponents downwards from a given one whose multiples meet the interval. -/
def Interval.search (interval : Interval) : Nat → Int → Digits
  | 0, exponent => ⟨0, exponent⟩
  | count + 1, exponent =>
    match interval.nearest? exponent with
    | some digits => ⟨digits, exponent⟩
    | none => interval.search count (exponent - 1)

/-- Seventeen digits always suffice. -/
def digitLimit : Nat := 18

/-- The shortest digits that read back as a double. -/
def shortest (bits : UInt64) : Digits :=
  let size := magnitude bits
  if size.mantissa = 0 then ⟨0, 0⟩
  else
    let interval := size.interval
    interval.search digitLimit interval.places

end LiveSelector.Decimal
