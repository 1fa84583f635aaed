namespace LiveSelector.Text.Punycode

/-!
Punycode: a text of any characters written with letters, digits and hyphens.  The ASCII characters
stand first, as they are.  Behind the last hyphen follow the others in ascending order, each as the
distance to its code point and place from the one before; a distance is written in digits whose
thresholds follow the distances before it.
-/

/-- The value of a digit: small letters come before figures. -/
def digit? (c : Char) : Option Nat :=
  if 'a' ≤ c ∧ c ≤ 'z' then some (c.toNat - 97)
  else if c.isDigit then some (c.toNat - 22)
  else none

def digitChar (value : Nat) : Char :=
  Char.ofNat (if value < 26 then value + 97 else value + 22)

/-- A digit below this threshold ends a distance; `place` grows by 36 with each digit. -/
def threshold (bias place : Nat) : Nat :=
  if place ≤ bias then 1 else if bias + 26 ≤ place then 26 else place - bias

theorem threshold_pos (bias place : Nat) : 0 < threshold bias place := by
  unfold threshold
  split
  · omega
  · split <;> omega

theorem threshold_le (bias place : Nat) : threshold bias place ≤ 26 := by
  unfold threshold
  split
  · omega
  · split <;> omega

/-- The digits of a distance.  Those that do not end it are at least their thresholds. -/
def distanceDigits (bias place distance : Nat) : List Char :=
  let limit := threshold bias place
  if distance < limit then [digitChar distance]
  else
    digitChar (limit + (distance - limit) % (36 - limit)) ::
      distanceDigits bias (place + 36) ((distance - limit) / (36 - limit))
termination_by distance
decreasing_by
  have positive := threshold_pos bias place
  exact Nat.lt_of_le_of_lt (Nat.div_le_self _ _) (by omega)

/-- A distance added to a sum, and what follows its digits. -/
def readDistance? (bias place weight sum : Nat) : List Char → Option (Nat × List Char)
  | [] => none
  | c :: rest =>
    match digit? c with
    | none => none
    | some digit =>
      if digit < threshold bias place then some (sum + digit * weight, rest)
      else
        readDistance? bias (place + 36) (weight * (36 - threshold bias place))
          (sum + digit * weight) rest

theorem readDistance?_length {bias place weight sum after : Nat} {text rest : List Char}
    (read : readDistance? bias place weight sum text = some (after, rest)) :
    rest.length < text.length := by
  induction text generalizing place weight sum with
  | nil => simp [readDistance?] at read
  | cons c others ih =>
      simp only [readDistance?] at read
      split at read
      · cases read
      · split at read
        · cases read
          simp
        · exact Nat.lt_succ_of_lt (ih read)

/-- The bias for distances of a size, one fold of 35 at a time. -/
def biasFor (distance bias : Nat) : Nat :=
  if 455 < distance then biasFor (distance / 35) (bias + 36)
  else bias + 36 * distance / (distance + 38)
termination_by distance

/-- The bias after a distance, `count` characters then being known. -/
def nextBias (distance count : Nat) (first : Bool) : Nat :=
  let size := if first then distance / 700 else distance / 2
  biasFor (size + size / count) 0

/-- Characters with those that distances give put in: the next one has at least the code point
`code`, and stands at `place` or behind if it has that one. -/
def putIn? (chars : List Char) (bias code place : Nat) (text : List Char) : Option (List Char) :=
  if text = [] then some chars
  else
    match found : readDistance? bias 36 1 place text with
    | none => none
    | some (sum, rest) =>
      let count := chars.length + 1
      let next := code + sum / count
      if next.isValidChar then
        putIn? (chars.insertIdx (sum % count) (Char.ofNat next))
          (nextBias (sum - place) count (place == 0)) next (sum % count + 1) rest
      else none
termination_by text.length
decreasing_by exact readDistance?_length found

/-- The text that a written form stands for.  A hyphen that stands first is no digit. -/
def decode? (text : List Char) : Option (List Char) :=
  match text.reverse.span (· ≠ '-') with
  | (tail, _ :: c :: before) => putIn? (c :: before).reverse 72 128 0 tail.reverse
  | _ => putIn? [] 72 128 0 text

/-- A character stands before another one in the order of code points, then of places. -/
def comesFirst (a b : Char × Nat) : Bool :=
  a.1.toNat < b.1.toNat || (a.1 = b.1 && a.2 ≤ b.2)

/-- The digits that put characters with their places in a text between those `known` of it. -/
def written (known : List (Char × Nat)) (bias code place : Nat) : List (Char × Nat) → List Char
  | [] => []
  | (c, spot) :: rest =>
    let count := known.length + 1
    let index := (known.takeWhile (·.2 < spot)).length
    let distance := (c.toNat - code) * count + index - place
    distanceDigits bias 36 distance ++
      written (known.insertIdx index (c, spot)) (nextBias distance count (place == 0)) c.toNat
        (index + 1) rest

/-- The written form of a text; without characters in ASCII it is digits alone. -/
def encode (text : List Char) : List Char :=
  let (known, others) := text.zipIdx.partition (·.1.toNat < 0x80)
  (if known.isEmpty then [] else known.map (·.1) ++ ['-']) ++
    written known 72 128 0 (others.mergeSort comesFirst)

end LiveSelector.Text.Punycode
