import LiveSelector.Text.Utf8

namespace LiveSelector.Url

/-!
Percent encoding.  Each part of a URL has a set of reserved characters; those are written as the
escapes of their UTF-8 bytes and all others as themselves.
-/

/-- A hexadecimal digit, letters in capitals. -/
def hexDigit (n : Nat) : Char :=
  if n < 10 then Char.ofNat (48 + n) else Char.ofNat (55 + n)

/-- The value of a hexadecimal digit. -/
def hexValue? (n : Nat) : Option Nat :=
  if 48 ≤ n && n ≤ 57 then some (n - 48)
  else if 65 ≤ n && n ≤ 70 then some (n - 55)
  else if 97 ≤ n && n ≤ 102 then some (n - 87)
  else none

def escapeByte (b : UInt8) : List Char :=
  ['%', hexDigit (b.toNat / 16), hexDigit (b.toNat % 16)]

/-- A text with its reserved characters escaped. -/
def encodeReserved (reserved : Char → Bool) (text : List Char) : List Char :=
  text.flatMap fun c =>
    if reserved c then (String.utf8EncodeChar c).flatMap escapeByte else [c]

/-- Bytes with their escapes undone; a percent sign that begins no escape stands for itself. -/
def decodeEscapes : List UInt8 → List UInt8
  | [] => []
  | [a] => [a]
  | [a, b] => [a, b]
  | a :: b :: c :: rest =>
    if a = 37 then
      match hexValue? b.toNat, hexValue? c.toNat with
      | some high, some low => UInt8.ofNat (high * 16 + low) :: decodeEscapes rest
      | _, _ => a :: decodeEscapes (b :: c :: rest)
    else a :: decodeEscapes (b :: c :: rest)

/-- Control characters and everything beyond ASCII are reserved everywhere. -/
def isControl (c : Char) : Bool :=
  c.toNat < 0x20 || c.toNat > 0x7E

def reservedInFragment (c : Char) : Bool :=
  isControl c || c ∈ [' ', '"', '<', '>', '\x60']

def reservedInQuery (c : Char) : Bool :=
  isControl c || c ∈ [' ', '"', '#', '<', '>']

/-- The query of a URL of a special scheme also escapes the apostrophe. -/
def reservedInSpecialQuery (c : Char) : Bool :=
  reservedInQuery c || c == '\''

def reservedInPath (c : Char) : Bool :=
  reservedInFragment c || c ∈ ['#', '?', '{', '}']

def reservedInUserinfo (c : Char) : Bool :=
  reservedInPath c || c ∈ ['/', ':', ';', '=', '@', '[', '\\', ']', '^', '|']

end LiveSelector.Url
