import LiveSelector.Decimal.Shortest

namespace LiveSelector.Decimal

/-!
Doubles as text.  Numbers of moderate size are written with a point and at least one digit after
it, all others with an exponent that carries its sign.
-/

/-- Where a number is written with an exponent, by the place of its first digit. -/
structure Layout where
  least : Int
  greatest : Int

/-- Between ten to minus five and ten to sixteen a number is written out. -/
def plain : Layout := ⟨-5, 15⟩

/-- Digits with a point after some places, zeros filled in. -/
def pointed (digits : List Char) (places : Int) : List Char :=
  if places ≤ 0 then '0' :: '.' :: List.replicate (-places).toNat '0' ++ digits
  else
    let whole := digits.take places.toNat ++ List.replicate (places.toNat - digits.length) '0'
    let rest := digits.drop places.toNat
    whole ++ '.' :: (if rest.isEmpty then ['0'] else rest)

/-- Digits with a point after the first and the exponent that is left. -/
def scientific (digits : List Char) (exponent : Int) : List Char :=
  let rest := digits.drop 1
  digits.take 1 ++ (if rest.isEmpty then [] else '.' :: rest) ++
    'e' :: (if exponent < 0 then '-' else '+') :: Nat.toDigits 10 exponent.natAbs

def Digits.text (layout : Layout) (number : Digits) : List Char :=
  let digits := Nat.toDigits 10 number.digits
  let places := number.exponent + digits.length
  if layout.least ≤ places - 1 && places - 1 ≤ layout.greatest then pointed digits places
  else scientific digits (places - 1)

/-- Digits without zeros at their end. -/
def dropZeros : Nat → Digits → Digits
  | 0, number => number
  | count + 1, number =>
    if number.digits % 10 = 0 then dropZeros count ⟨number.digits / 10, number.exponent + 1⟩
    else number

def text (bits : UInt64) : List Char :=
  let number := shortest bits
  let body :=
    if number.digits = 0 then ['0', '.', '0'] else (dropZeros digitLimit number).text plain
  if isNegative bits then '-' :: body else body

end LiveSelector.Decimal
