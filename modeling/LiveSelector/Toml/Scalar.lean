import LiveSelector.Toml.Basic

namespace LiveSelector.Toml

/-!
Numbers, dates and times of TOML.  Digits may be parted by single underscores.  Integers have 64
bits.  A float may not be so large that it would be infinite unless it is negative or says so.
-/

/-- More digits after a first one, underscores dropped, and what follows them. -/
def moreDigits? (isDigit : Char → Bool) : List Char → Option (List Char × List Char)
  | [] => some ([], [])
  | '_' :: [] => none
  | '_' :: c :: rest =>
    if isDigit c then (moreDigits? isDigit rest).map fun (digits, after) => (c :: digits, after)
    else none
  | c :: rest =>
    if isDigit c then (moreDigits? isDigit rest).map fun (digits, after) => (c :: digits, after)
    else some ([], c :: rest)

/-- Digits at the start of a text and what follows them; there is at least one. -/
def readDigits? (isDigit : Char → Bool) : List Char → Option (List Char × List Char)
  | c :: rest =>
    if isDigit c then (moreDigits? isDigit rest).map fun (digits, after) => (c :: digits, after)
    else none
  | [] => none

def digitValue (c : Char) : Nat :=
  if c.isDigit then c.toNat - 48 else c.toLower.toNat - 87

/-- The number that digits spell in a base. -/
def valueIn (base : Nat) (digits : List Char) : Nat :=
  digits.foldl (fun value c => value * base + digitValue c) 0

def isHexDigit (c : Char) : Bool :=
  c.isDigit || ('a' ≤ c && c ≤ 'f') || ('A' ≤ c && c ≤ 'F')

def isOctalDigit (c : Char) : Bool :=
  '0' ≤ c && c ≤ '7'

def isBinaryDigit (c : Char) : Bool :=
  c == '0' || c == '1'

/-- Integers lie from minus this bound up to below it. -/
def integerBound : Nat := Nat.pow 2 63

/-- A sign at the start of a text: whether it is a minus, and what follows. -/
def readSign : List Char → Bool × List Char
  | '-' :: rest => (true, rest)
  | '+' :: rest => (false, rest)
  | rest => (false, rest)

/-- The whole part of a decimal number: a zero stands alone. -/
def readWhole? : List Char → Option (List Char × List Char)
  | '0' :: rest => some (['0'], rest)
  | rest => readDigits? Char.isDigit rest

/-- A positive integer in a base other than ten. -/
def readBased? (base : Nat) (isDigit : Char → Bool) (text : List Char) :
    Option (Toml × List Char) :=
  match readDigits? isDigit text with
  | some (digits, after) =>
    if valueIn base digits < integerBound then some (.integer (valueIn base digits), after)
    else none
  | none => none

/-- A decimal integer. -/
def readDecimal? (text : List Char) : Option (Toml × List Char) :=
  let (negative, unsigned) := readSign text
  match readWhole? unsigned with
  | some (digits, after) =>
    let size := valueIn 10 digits
    if negative then
      (if size ≤ integerBound then some (.integer (-size), after) else none)
    else if size < integerBound then some (.integer size, after)
    else none
  | none => none

def readInteger? : List Char → Option (Toml × List Char)
  | '0' :: 'x' :: rest => readBased? 16 isHexDigit rest
  | '0' :: 'o' :: rest => readBased? 8 isOctalDigit rest
  | '0' :: 'b' :: rest => readBased? 2 isBinaryDigit rest
  | text => readDecimal? text

/-- Decimals from this one on are nearer to the next power of two than to the greatest double. -/
def floatBound : Nat := Nat.pow 2 1024 - Nat.pow 2 970

/-- Whether digits times ten to an exponent are too large for a double. -/
def isTooLarge (digits : List Char) (exponent : Int) : Bool :=
  let significant := digits.dropWhile (· == '0')
  let places := significant.length + exponent
  if significant.isEmpty || places < 300 then false
  else if places > 310 then true
  else
    valueIn 10 significant * Nat.pow 10 exponent.toNat ≥ floatBound * Nat.pow 10 (-exponent).toNat

/-- The digits after a point, if there is one. -/
def readFraction? : List Char → Option (Option (List Char) × List Char)
  | '.' :: rest => (readDigits? Char.isDigit rest).map fun (digits, after) => (some digits, after)
  | rest => some (none, rest)

/-- The exponent after its mark, if there is one. -/
def readExponent? : List Char → Option (Option Int × List Char)
  | mark :: rest =>
    if mark == 'e' || mark == 'E' then
      let (negative, unsigned) := readSign rest
      (readDigits? Char.isDigit unsigned).map fun (digits, after) =>
        let size : Int := valueIn 10 digits
        (some (if negative then -size else size), after)
    else some (none, mark :: rest)
  | [] => some (none, [])

/-- A float with a fraction, an exponent or both. -/
def readDecimalFloat? (text : List Char) : Option (Toml × List Char) := do
  let (negative, unsigned) := readSign text
  let (whole, afterWhole) ← readWhole? unsigned
  let (fraction, afterFraction) ← readFraction? afterWhole
  let (exponent, after) ← readExponent? afterFraction
  if fraction.isNone && exponent.isNone then none
  let places := fraction.getD []
  let tooLarge := isTooLarge (whole ++ places) (exponent.getD 0 - places.length)
  if tooLarge && !negative then none
  some (.float, after)

/-- A float that is spelled by name. -/
def readNamedFloat? (text : List Char) : Option (Toml × List Char) :=
  match (readSign text).2 with
  | 'i' :: 'n' :: 'f' :: after | 'n' :: 'a' :: 'n' :: after => some (.float, after)
  | _ => none

/-- A number of exactly `count` digits. -/
def readFixed? (count : Nat) (text : List Char) : Option (Nat × List Char) :=
  let digits := text.take count
  if digits.length = count && digits.all Char.isDigit then
    some (valueIn 10 digits, text.drop count)
  else none

/-- A given character at the start of a text. -/
def readMark? (mark : Char) : List Char → Option (List Char)
  | c :: rest => if c = mark then some rest else none
  | [] => none

def isLeapYear (year : Nat) : Bool :=
  year % 4 == 0 && (year % 100 != 0 || year % 400 == 0)

/-- The days of a month; a number that is no month has none. -/
def daysIn (year month : Nat) : Nat :=
  if month = 2 then (if isLeapYear year then 29 else 28)
  else if month ∈ [4, 6, 9, 11] then 30
  else if 1 ≤ month && month ≤ 12 then 31
  else 0

/-- What follows a date. -/
def readDate? (text : List Char) : Option (List Char) := do
  let (year, afterYear) ← readFixed? 4 text
  let (month, afterMonth) ← readFixed? 2 (← readMark? '-' afterYear)
  let (day, after) ← readFixed? 2 (← readMark? '-' afterMonth)
  if 1 ≤ day && day ≤ daysIn year month then some after else none

/-- What follows the hours and minutes of a time. -/
def readHourMinute? (text : List Char) : Option (List Char) := do
  let (hour, afterHour) ← readFixed? 2 text
  let (minute, after) ← readFixed? 2 (← readMark? ':' afterHour)
  if hour ≤ 23 && minute ≤ 59 then some after else none

/-- What follows a time; the second of a leap counts as one. -/
def readTime? (text : List Char) : Option (List Char) := do
  let afterMinute ← readHourMinute? text
  let (second, after) ← readFixed? 2 (← readMark? ':' afterMinute)
  if second > 60 then none
  match after with
  | '.' :: c :: rest => if c.isDigit then some (rest.dropWhile Char.isDigit) else some after
  | _ => some after

/-- What follows the distance of a time from the standard one, if it is given. -/
def dropOffset (text : List Char) : List Char :=
  match text with
  | 'Z' :: rest | 'z' :: rest => rest
  | '+' :: rest | '-' :: rest => (readHourMinute? rest).getD text
  | _ => text

/-- What follows the time after a date, if there is one. -/
def dropTimeOfDay (text : List Char) : List Char :=
  match text with
  | mark :: rest =>
    if mark ∈ ['T', 't', ' '] then
      match readTime? rest with
      | some after => dropOffset after
      | none => text
    else text
  | [] => []

/-- A date, a time of day, or both. -/
def readMoment? (text : List Char) : Option (Toml × List Char) :=
  match readDate? text with
  | some after => some (.moment, dropTimeOfDay after)
  | none => (readTime? text).map fun after => (.moment, after)

/-- A number, a date or a time. -/
def readNumeral? (text : List Char) : Option (Toml × List Char) :=
  readMoment? text <|> readDecimalFloat? text <|> readNamedFloat? text <|> readInteger? text

end LiveSelector.Toml
