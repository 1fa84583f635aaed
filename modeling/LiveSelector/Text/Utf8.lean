namespace LiveSelector.Text

/-!
Bytes as text.  A byte string is read from the left as characters and broken parts: a broken part
is a start of a character that the next byte, or the end, does not continue, or one byte that
starts no character.  Each broken part reads as one replacement character.
-/

/-- What may follow inside a character: how many bytes are missing and which range the next one
must lie in. -/
structure Expected where
  missing : Nat
  low : UInt8
  high : UInt8
  deriving DecidableEq

/-- The bits that a lead byte gives and what must follow it; an ASCII byte stands alone and is
no lead byte. -/
def leadByte (b : UInt8) : Option (Nat × Expected) :=
  if 0xC2 ≤ b ∧ b ≤ 0xDF then some (b.toNat % 32, ⟨1, 0x80, 0xBF⟩)
  else if b = 0xE0 then some (0, ⟨2, 0xA0, 0xBF⟩)
  else if b = 0xED then some (13, ⟨2, 0x80, 0x9F⟩)
  else if 0xE1 ≤ b ∧ b ≤ 0xEF then some (b.toNat % 16, ⟨2, 0x80, 0xBF⟩)
  else if b = 0xF0 then some (0, ⟨3, 0x90, 0xBF⟩)
  else if 0xF1 ≤ b ∧ b ≤ 0xF3 then some (b.toNat % 8, ⟨3, 0x80, 0xBF⟩)
  else if b = 0xF4 then some (4, ⟨3, 0x80, 0x8F⟩)
  else none

/-- One part of a byte string. -/
inductive TextPart where
  | char (c : Char)
  | broken
  deriving DecidableEq

/-- A byte read between characters: the parts it completes and the character it opens. -/
def openChar (b : UInt8) : List TextPart × Option (Nat × Expected) :=
  if b < 0x80 then ([.char (Char.ofNat b.toNat)], none)
  else
    match leadByte b with
    | some opened => ([], some opened)
    | none => ([.broken], none)

/-- The parts of a byte string, `opened` being the character that the bytes before have begun. -/
def partsFrom : Option (Nat × Expected) → List UInt8 → List TextPart
  | none, [] => []
  | some _, [] => [.broken]
  | none, b :: rest =>
    (openChar b).1 ++ partsFrom (openChar b).2 rest
  | some (bits, expected), b :: rest =>
    if expected.low ≤ b ∧ b ≤ expected.high then
      let value := bits * 64 + b.toNat % 64
      if expected.missing ≤ 1 then .char (Char.ofNat value) :: partsFrom none rest
      else partsFrom (some (value, ⟨expected.missing - 1, 0x80, 0xBF⟩)) rest
    else .broken :: ((openChar b).1 ++ partsFrom (openChar b).2 rest)

/-- The parts of a byte string. -/
def textParts (bytes : List UInt8) : List TextPart :=
  partsFrom none bytes

/-- The characters of parts none of which is broken. -/
def wholeText? : List TextPart → Option (List Char)
  | [] => some []
  | .char c :: rest => (wholeText? rest).map (c :: ·)
  | .broken :: _ => none

/-- The text that bytes are, if they are one. -/
def decode? (bytes : List UInt8) : Option String :=
  (wholeText? (textParts bytes)).map .ofList

/-- The text of bytes with a replacement character for each broken part. -/
def decodeLossy (bytes : List UInt8) : String :=
  .ofList ((textParts bytes).map fun part =>
    match part with
    | .char c => c
    | .broken => '\uFFFD')

/-- The bytes of a text. -/
def encode (text : List Char) : List UInt8 :=
  text.flatMap String.utf8EncodeChar

end LiveSelector.Text
