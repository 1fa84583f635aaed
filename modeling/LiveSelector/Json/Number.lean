import LiveSelector.Json.Basic

namespace LiveSelector.Json

/-!
Numbers from their spelling.  A whole number of at most 64 bits stays an integer.  Any other
number is a double: its digits are taken into a significand of 64 bits as long as they fit, and
the significand is scaled by one power of ten.
-/

structure Spelling where
  negative : Bool
  whole : List Nat
  fraction : Option (List Nat)
  exponent : Option Int
  deriving DecidableEq

/-- Significands lie below this bound. -/
def significandBound : Nat := Nat.pow 2 64

/-- Digits taken into a significand until one does not fit, and how many were left out. -/
def takeDigits (significand : Nat) : List Nat → Nat × Nat
  | [] => (significand, 0)
  | digit :: rest =>
    if significand * 10 + digit < significandBound then takeDigits (significand * 10 + digit) rest
    else (significand, rest.length + 1)

def greatestPower : Nat := 308

def powerOfTen (exponent : Nat) : Float :=
  Float.ofScientific 1 false exponent

/-- A double divided by ten to a power, the greatest power at a time. -/
def lower (value : Float) (exponent : Nat) : Float :=
  if exponent ≤ greatestPower then value / powerOfTen exponent
  else lower (value / powerOfTen greatestPower) (exponent - greatestPower)
termination_by exponent
decreasing_by simp only [greatestPower] at *; omega

/-- A significand scaled by a power of ten; too great a number has no double. -/
def scale? (significand : Nat) (exponent : Int) : Option Float :=
  let value := (UInt64.ofNat significand).toFloat
  if significand = 0 then some value
  else if exponent < 0 then
    -- Below this bound the quotient is zero whatever the significand.
    some (lower value (min exponent.natAbs 2000))
  else if exponent.natAbs ≤ greatestPower then
    let scaled := value * powerOfTen exponent.natAbs
    if scaled.isInf then none else some scaled
  else none

def Spelling.number? (spelling : Spelling) : Option Number :=
  let (front, cut) := takeDigits 0 spelling.whole
  let double (significand : Nat) (exponent : Int) : Option Number :=
    (scale? significand exponent).map fun size =>
      .double (if spelling.negative then (-size).toBits else size.toBits)
  match spelling.fraction, spelling.exponent with
  | none, none =>
    if cut = 0 then
      if !spelling.negative then some (.int front)
      else if 0 < front && front ≤ Nat.pow 2 63 then some (.int (-front))
      else double front 0
    else double front cut
  | fraction, exponent =>
    let digits := fraction.getD []
    let (significand, left) := takeDigits front digits
    double significand (cut - (digits.length - left : Nat) + exponent.getD 0)

end LiveSelector.Json
