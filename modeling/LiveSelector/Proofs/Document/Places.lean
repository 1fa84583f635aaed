import LiveSelector.Document.Diagnostic
import LiveSelector.Proofs.Document.Replay

namespace LiveSelector

/-! Places in a document.  A place belongs to the document if its line is there and it is at most
behind the last character of that line; a line ends before its newline, and before a carriage return
that stands in front of it. -/

open Text TextChange

variable {document : Document} {line : Nat} {chars : List Char}

/-- Places are in the order of the text. -/
instance : LE Position where
  le one other := one.line < other.line ∨ one.line = other.line ∧ one.character ≤ other.character

instance (one other : Position) : Decidable (one ≤ other) :=
  inferInstanceAs (Decidable (_ ∨ _))

theorem Position.le_of_character_le {early late : Nat} (within : early ≤ late) :
    (⟨line, early⟩ : Position) ≤ ⟨line, late⟩ :=
  .inr ⟨rfl, within⟩

/-- A place that is counted from one, counted from zero. -/
def SourcePoint.place (point : SourcePoint) : Position :=
  ⟨point.line - 1, point.column - 1⟩

namespace Document

/-- A place on a line that is there, and not behind the line's end. -/
def Holds (document : Document) (place : Position) : Prop :=
  place.line ≤ document.lastLine ∧ place.character ≤ document.lineLength place.line

instance (place : Position) : Decidable (document.Holds place) :=
  inferInstanceAs (Decidable (_ ∧ _))

/-- A range that begins and ends in the document, and does not end before it begins. -/
def Spans (document : Document) (range : Range) : Prop :=
  document.Holds range.start ∧ document.Holds range.stop ∧ range.start ≤ range.stop

instance (range : Range) : Decidable (document.Spans range) :=
  inferInstanceAs (Decidable (_ ∧ _ ∧ _))

/-- A place, counted from one, that is in the document. -/
structure Locates (document : Document) (point : SourcePoint) : Prop where
  line_pos : 1 ≤ point.line
  line_le : point.line ≤ document.lineCount
  column_pos : 1 ≤ point.column
  column_le : point.column ≤ document.lineLength (point.line - 1) + 1

theorem lastLine_lt_lineCount (document : Document) : document.lastLine < document.lineCount :=
  Nat.sub_lt document.lineCount_pos Nat.one_pos

theorem clampLine_le (document : Document) (line : Nat) :
    document.clampLine line ≤ document.lastLine :=
  Nat.min_le_right _ _

theorem clampLine_lt (document : Document) (line : Nat) :
    document.clampLine line < document.lineCount :=
  Nat.lt_of_le_of_lt (document.clampLine_le line) document.lastLine_lt_lineCount

theorem clampLine_of_le (within : line ≤ document.lastLine) : document.clampLine line = line :=
  Nat.min_eq_left within

theorem clampLine_of_ge (past : document.lastLine ≤ line) :
    document.clampLine line = document.lastLine :=
  Nat.min_eq_right past

theorem lineLength_eq (found : (rawLines document.text)[line]? = some chars) :
    document.lineLength line = (dropReturn chars).length := by
  simp only [lineLength, line?, found, Option.map_some]

/-- What stands in the text behind a place. -/
def textAfter (document : Document) (place : Position) : List Char :=
  document.text.toList.drop (offsetOf (rawLines document.text) place)

/-- What stands behind the end of a line: nothing or a newline, after a carriage return perhaps. -/
def endsLine : List Char → Bool
  | [] | ['\r'] | '\n' :: _ | '\r' :: '\n' :: _ => true
  | _ => false

/-- What stands behind the length of a line is what its newline or the end of the text follows. -/
theorem endsLine_drop (chars : List Char) {more : List Char}
    (ended : more = [] ∨ ∃ rest, more = '\n' :: rest) :
    endsLine ((chars ++ more).drop (dropReturn chars).length) = true := by
  rcases dropReturn_append chars with whole | cut
  · rw [whole, List.drop_left]
    rcases ended with rfl | ⟨rest, rfl⟩
    · rfl
    · rfl
  · -- The carriage return is behind the length of the line.
    generalize dropReturn chars = line at cut
    subst cut
    rw [List.append_assoc, List.drop_left]
    rcases ended with rfl | ⟨rest, rfl⟩
    · rfl
    · rfl

theorem textAfter_eq (within : line < document.lineCount) (character : Nat) :
    document.textAfter ⟨line, character⟩ =
      (joinPieces '\n' ((rawLines document.text).drop line)).drop character := by
  have rest : (rawLines document.text).drop line ≠ [] := by
    intro none
    have short := List.drop_eq_nil_iff.mp none
    exact Nat.lt_irrefl _ (Nat.lt_of_lt_of_le within short)
  have joined := joinPieces_ended ((rawLines document.text).take line) rest
  rw [List.take_append_drop, joinPieces_rawLines] at joined
  rw [textAfter, joined, offsetOf, lengthOf_eq, List.drop_length_add_append]

theorem endsLine_textAfter (within : line < document.lineCount) :
    endsLine (document.textAfter ⟨line, document.lineLength line⟩) = true := by
  have found : (rawLines document.text)[line]? = some (rawLines document.text)[line] :=
    List.getElem?_eq_getElem within
  have rest : (rawLines document.text).drop line =
      (rawLines document.text)[line] :: (rawLines document.text).drop (line + 1) :=
    List.drop_eq_getElem_cons within
  rw [textAfter_eq within, lineLength_eq found, rest]
  cases (rawLines document.text).drop (line + 1) with
  | nil =>
      have last := endsLine_drop (rawLines document.text)[line] (.inl rfl)
      rwa [List.append_nil] at last
  | cons next others => exact endsLine_drop _ (.inr ⟨_, rfl⟩)

end Document

end LiveSelector
