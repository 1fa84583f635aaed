import LiveSelector.Json.Number
import LiveSelector.Json.Quoted

namespace LiveSelector.Json

/-!
JSON values from text.  The reader accepts one value with blanks around it and nothing else.
-/

/-- Blanks between the tokens. -/
def isGap (c : Char) : Bool :=
  c == ' ' || c == '\n' || c == '\t' || c == '\r'

def skipGap (text : List Char) : List Char :=
  text.dropWhile isGap

/-- The digits at the start of a text and what follows them. -/
def readDigits (text : List Char) : List Nat × List Char :=
  ((text.takeWhile Char.isDigit).map fun c => c.toNat - 48, text.dropWhile Char.isDigit)

/-- The number that digits spell. -/
def digitsValue (digits : List Nat) : Nat :=
  digits.foldl (fun value digit => value * 10 + digit) 0

/-- The digits after a point, if there is one. -/
def readFraction? : List Char → Option (Option (List Nat) × List Char)
  | '.' :: rest =>
    match readDigits rest with
    | ([], _) => none
    | (digits, after) => some (some digits, after)
  | text => some (none, text)

/-- The exponent after its mark, if there is one. -/
def readExponent? : List Char → Option (Option Int × List Char)
  | mark :: rest =>
    if mark == 'e' || mark == 'E' then
      let (negative, unsigned) :=
        match rest with
        | '-' :: after => (true, after)
        | '+' :: after => (false, after)
        | after => (false, after)
      match readDigits unsigned with
      | ([], _) => none
      | (digits, after) =>
        let size : Int := digitsValue digits
        some (some (if negative then -size else size), after)
    else some (none, mark :: rest)
  | [] => some (none, [])

/-- The spelling of a number at the start of a text.  A zero stands alone before the point. -/
def readSpelling? (text : List Char) : Option (Spelling × List Char) :=
  let (negative, unsigned) :=
    match text with
    | '-' :: rest => (true, rest)
    | rest => (false, rest)
  match readDigits unsigned with
  | ([], _) | (0 :: _ :: _, _) => none
  | (whole, afterWhole) =>
    match readFraction? afterWhole with
    | none => none
    | some (fraction, afterFraction) =>
      match readExponent? afterFraction with
      | none => none
      | some (exponent, after) => some (⟨negative, whole, fraction, exponent⟩, after)

/-- A number at the start of a text. -/
def readNumber? (text : List Char) : Option (Json × List Char) :=
  match readSpelling? text with
  | none => none
  | some (spelling, after) => spelling.number?.map fun number => (.number number, after)

mutual

/-- A value at the start of a text, in at most `fuel` nested steps. -/
def readValue? : Nat → List Char → Option (Json × List Char)
  | 0, _ => none
  | fuel + 1, text =>
    match skipGap text with
    | '[' :: rest =>
      match skipGap rest with
      | ']' :: after => some (.array [], after)
      | inner =>
        match readItems? fuel inner with
        | some (items, after) => some (.array items, after)
        | none => none
    | '{' :: rest =>
      match skipGap rest with
      | '}' :: after => some (.object [], after)
      | inner =>
        match readMembers? fuel inner with
        | some (members, after) => some (ofMembers members, after)
        | none => none
    | '"' :: rest =>
      match unquote? rest with
      | some (chars, after) => some (.string (.ofList chars), after)
      | none => none
    | 'n' :: 'u' :: 'l' :: 'l' :: after => some (.null, after)
    | 't' :: 'r' :: 'u' :: 'e' :: after => some (.bool true, after)
    | 'f' :: 'a' :: 'l' :: 's' :: 'e' :: after => some (.bool false, after)
    | other => readNumber? other

/-- The items of an array and what follows its bracket. -/
def readItems? : Nat → List Char → Option (List Json × List Char)
  | 0, _ => none
  | fuel + 1, text =>
    match readValue? fuel text with
    | none => none
    | some (item, after) =>
      match skipGap after with
      | ',' :: rest =>
        match readItems? fuel rest with
        | some (items, last) => some (item :: items, last)
        | none => none
      | ']' :: last => some ([item], last)
      | _ => none

/-- The members of an object and what follows its brace. -/
def readMembers? : Nat → List Char → Option (List (String × Json) × List Char)
  | 0, _ => none
  | fuel + 1, text =>
    match skipGap text with
    | '"' :: rest =>
      match unquote? rest with
      | none => none
      | some (key, afterKey) =>
        match skipGap afterKey with
        | ':' :: inner =>
          match readValue? fuel inner with
          | none => none
          | some (value, after) =>
            match skipGap after with
            | ',' :: more =>
              match readMembers? fuel more with
              | some (members, last) => some ((.ofList key, value) :: members, last)
              | none => none
            | '}' :: last => some ([(.ofList key, value)], last)
            | _ => none
        | _ => none
    | _ => none

end

/-- The value that a text spells. -/
def read? (text : String) : Option Json :=
  let chars := text.toList
  match readValue? (2 * chars.length + 1) chars with
  | some (value, after) => if skipGap after = [] then some value else none
  | none => none

end LiveSelector.Json
