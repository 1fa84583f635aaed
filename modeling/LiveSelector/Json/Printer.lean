import LiveSelector.Decimal.Layout
import LiveSelector.Json.Basic
import LiveSelector.Json.Quoted

namespace LiveSelector.Json

/-!
JSON values as text.  The spread form puts every item and member on a line of its own, indented
by two blanks for each array or object around it; the dense form has no blanks at all.  Empty
arrays and objects are written without blanks in both.
-/

/-- An integer in decimal. -/
def integerText (value : Int) : List Char :=
  if value < 0 then '-' :: Nat.toDigits 10 value.natAbs else Nat.toDigits 10 value.natAbs

def Number.text : Number → List Char
  | .int value => integerText value
  | .double bits => Decimal.text bits

def boolText : Bool → List Char
  | true => ['t', 'r', 'u', 'e']
  | false => ['f', 'a', 'l', 's', 'e']

def nullText : List Char := ['n', 'u', 'l', 'l']

/-- A new line at a depth. -/
def lineBreak (depth : Nat) : List Char :=
  '\n' :: List.replicate (2 * depth) ' '

mutual

def spread (depth : Nat) : Json → List Char
  | .null => nullText
  | .bool value => boolText value
  | .number value => value.text
  | .string value => quoted value.toList
  | .array [] => ['[', ']']
  | .array (item :: rest) =>
    '[' :: lineBreak (depth + 1) ++ spread (depth + 1) item ++ spreadItems (depth + 1) rest ++
      lineBreak depth ++ [']']
  | .object [] => ['{', '}']
  | .object ((key, value) :: rest) =>
    '{' :: lineBreak (depth + 1) ++ quoted key.toList ++ ':' :: ' ' :: spread (depth + 1) value ++
      spreadMembers (depth + 1) rest ++ lineBreak depth ++ ['}']

/-- Items after the first. -/
def spreadItems (depth : Nat) : List Json → List Char
  | [] => []
  | item :: rest => ',' :: lineBreak depth ++ spread depth item ++ spreadItems depth rest

/-- Members after the first. -/
def spreadMembers (depth : Nat) : List (String × Json) → List Char
  | [] => []
  | (key, value) :: rest =>
    ',' :: lineBreak depth ++ quoted key.toList ++ ':' :: ' ' :: spread depth value ++
      spreadMembers depth rest

end

mutual

/-- The dense form of a value, put before a text. -/
def denseOnto (after : List Char) : Json → List Char
  | .null => nullText ++ after
  | .bool value => boolText value ++ after
  | .number value => value.text ++ after
  | .string value => quoted value.toList ++ after
  | .array [] => '[' :: ']' :: after
  | .array (item :: rest) => '[' :: denseOnto (denseItemsOnto (']' :: after) rest) item
  | .object [] => '{' :: '}' :: after
  | .object ((key, value) :: rest) =>
    '{' :: quoted key.toList ++ ':' :: denseOnto (denseMembersOnto ('}' :: after) rest) value

/-- Items after the first, put before a text. -/
def denseItemsOnto (after : List Char) : List Json → List Char
  | [] => after
  | item :: rest => ',' :: denseOnto (denseItemsOnto after rest) item

/-- Members after the first, put before a text. -/
def denseMembersOnto (after : List Char) : List (String × Json) → List Char
  | [] => after
  | (key, value) :: rest =>
    ',' :: quoted key.toList ++ ':' :: denseOnto (denseMembersOnto after rest) value

end

/-- The spread form of a value. -/
def render (value : Json) : String :=
  .ofList (spread 0 value)

def dense (value : Json) : String :=
  .ofList (denseOnto [] value)

end LiveSelector.Json
