import LiveSelector.Text.Pieces

namespace LiveSelector.Text

/-!
Lines as a reader takes them.  A line ends at a newline or at a carriage return with a newline,
and an empty rest after the last newline is no line.
-/

/-- A piece without one carriage return at its end. -/
def dropReturn : List Char → List Char
  | [] => []
  | c :: rest => if c = '\r' ∧ rest = [] then [] else c :: dropReturn rest

/-- The lines among the pieces of a text.  A piece that a newline ended loses its carriage
return; what follows the last newline is a line as it stands, unless it is empty. -/
def endedLines : List (List Char) → List (List Char)
  | [] => []
  | [last] => if last.isEmpty then [] else [last]
  | piece :: rest => dropReturn piece :: endedLines rest

/-- The lines of a text as a reader takes them. -/
def readLines (text : List Char) : List (List Char) :=
  endedLines (pieces '\n' text)

/-- A piece is its line with the carriage return that was cut off. -/
theorem dropReturn_append (piece : List Char) :
    dropReturn piece = piece ∨ dropReturn piece ++ ['\r'] = piece := by
  induction piece with
  | nil => exact .inl rfl
  | cons c rest ih =>
      simp only [dropReturn]
      split
      · rename_i final
        exact .inr (by simp [final.1, final.2])
      · rcases ih with whole | cut
        · exact .inl (by rw [whole])
        · exact .inr (by rw [List.cons_append, cut])

end LiveSelector.Text
