import LiveSelector.Document.Basic
import LiveSelector.Document.Position

namespace LiveSelector

/-!
Changes of a text.  An edit is announced as one change: everything from the first line that
differs to the end of the old text is replaced.
-/

/-- A part of a text and what stands there instead. -/
structure TextChange where
  range : Range
  text : String
  deriving DecidableEq

namespace TextChange

/-- How many items two lists have in common at their start. -/
def sharedLength {α : Type} [DecidableEq α] : List α → List α → Nat
  | a :: as, b :: bs => if a = b then sharedLength as bs + 1 else 0
  | _, _ => 0

/-- The change from one text to another. -/
def between (old new : String) : TextChange :=
  let before := rawLines old
  let after := rawLines new
  let last := before.length - 1
  let first := min (sharedLength before after) last
  { range := ⟨⟨first, 0⟩, ⟨last, (before.getLastD []).length⟩⟩
    text := .ofList (Text.joinPieces '\n' (after.drop first)) }

/-- The number of characters that lines take up, a newline after each. -/
def lengthOf : List (List Char) → Nat
  | [] => 0
  | line :: rest => line.length + 1 + lengthOf rest

/-- The number of characters before a place, lines being parted by newlines. -/
def offsetOf (lines : List (List Char)) (place : Position) : Nat :=
  lengthOf (lines.take place.line) + place.character

/-- A text after a change. -/
def apply (change : TextChange) (text : String) : String :=
  let lines := rawLines text
  .ofList (text.toList.take (offsetOf lines change.range.start) ++ change.text.toList ++
    text.toList.drop (offsetOf lines change.range.stop))

end TextChange

end LiveSelector
