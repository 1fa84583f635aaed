namespace LiveSelector.Text

/-!
Cutting a text at a separator.  `pieces` keeps every piece, so that joining the pieces with the
separator gives the text back, no piece holds the separator, and pieces that do not hold it are what
cutting gives back of them once they are joined.
-/

/-- The pieces between separators; there is at least one, the empty text being one empty piece. -/
def pieces (separator : Char) : List Char → List (List Char)
  | [] => [[]]
  | c :: rest =>
    if c = separator then [] :: pieces separator rest
    else
      match pieces separator rest with
      | [] => [[c]]
      | first :: others => (c :: first) :: others

/-- Pieces put together with a separator between them. -/
def joinPieces (separator : Char) : List (List Char) → List Char
  | [] => []
  | [last] => last
  | piece :: rest => piece ++ separator :: joinPieces separator rest

theorem pieces_ne_nil (separator : Char) (text : List Char) : pieces separator text ≠ [] := by
  cases text with
  | nil => simp [pieces]
  | cons c rest =>
      simp only [pieces]
      split
      · simp
      · split <;> simp

theorem joinPieces_pieces (separator : Char) (text : List Char) :
    joinPieces separator (pieces separator text) = text := by
  induction text with
  | nil => rfl
  | cons c rest ih =>
      have nonempty := pieces_ne_nil separator rest
      simp only [pieces]
      cases cut : pieces separator rest with
      | nil => exact absurd cut nonempty
      | cons first others =>
          rw [cut] at ih
          split
          · cases others <;> simp_all [joinPieces]
          · cases others <;> simp_all [joinPieces]

/-- No piece holds the separator. -/
theorem separator_not_mem_pieces {separator : Char} {text piece : List Char}
    (member : piece ∈ pieces separator text) : separator ∉ piece := by
  induction text generalizing piece with
  | nil => simp_all [pieces]
  | cons c rest ih =>
      simp only [pieces] at member
      split at member
      · rcases List.mem_cons.mp member with rfl | inRest
        · simp
        · exact ih inRest
      · rename_i ordinary
        cases cut : pieces separator rest with
        | nil => exact absurd cut (pieces_ne_nil separator rest)
        | cons first others =>
            rw [cut] at member ih
            rcases List.mem_cons.mp member with rfl | inOthers
            · have clean : separator ∉ first := ih (by simp)
              simp [clean, Ne.symm ordinary]
            · exact ih (List.mem_cons_of_mem _ inOthers)

/-- A text without the separator is one piece. -/
theorem pieces_eq_singleton {separator : Char} {text : List Char} (clean : separator ∉ text) :
    pieces separator text = [text] := by
  induction text with
  | nil => rfl
  | cons c rest ih =>
      simp only [List.mem_cons, not_or] at clean
      simp [pieces, Ne.symm clean.1, ih clean.2]

/-- Text before a separator adds its own pieces in front. -/
theorem pieces_append_separator (separator : Char) (front back : List Char) :
    pieces separator (front ++ separator :: back) =
      pieces separator front ++ pieces separator back := by
  induction front with
  | nil => simp [pieces]
  | cons c rest ih =>
      simp only [List.cons_append, pieces, ih]
      split
      · rfl
      · cases cut : pieces separator rest with
        | nil => exact absurd cut (pieces_ne_nil separator rest)
        | cons first others => rfl

/-- Text without the separator goes to the first piece of what follows it. -/
theorem pieces_append_clean {separator : Char} {front back : List Char} {first : List Char}
    {others : List (List Char)} (clean : separator ∉ front)
    (cut : pieces separator back = first :: others) :
    pieces separator (front ++ back) = (front ++ first) :: others := by
  induction front with
  | nil => exact cut
  | cons c rest ih =>
      simp only [List.mem_cons, not_or] at clean
      simp only [List.cons_append, pieces, Ne.symm clean.1, if_false, ih clean.2]

/-- What stands in joined pieces is a separator or stands in one of them. -/
theorem mem_joinPieces {separator c : Char} {row : List (List Char)}
    (member : c ∈ joinPieces separator row) : c = separator ∨ ∃ piece ∈ row, c ∈ piece := by
  induction row with
  | nil => cases member
  | cons piece rest ih =>
      cases rest with
      | nil => exact Or.inr ⟨piece, List.mem_cons_self, member⟩
      | cons next others =>
          rcases List.mem_append.mp member with first | later
          · exact Or.inr ⟨piece, List.mem_cons_self, first⟩
          · rcases List.mem_cons.mp later with rfl | inside
            · exact Or.inl rfl
            · rcases ih inside with same | ⟨found, among, within⟩
              · exact Or.inl same
              · exact Or.inr ⟨found, List.mem_cons_of_mem _ among, within⟩

theorem mem_joinPieces_of_mem {separator c : Char} {piece : List Char} {row : List (List Char)}
    (among : piece ∈ row) (inside : c ∈ piece) : c ∈ joinPieces separator row := by
  induction row with
  | nil => cases among
  | cons first rest ih =>
      cases rest with
      | nil =>
          rw [List.mem_singleton.mp among] at inside
          exact inside
      | cons next others =>
          rcases List.mem_cons.mp among with rfl | later
          · exact List.mem_append_left _ inside
          · exact List.mem_append_right _ (List.mem_cons_of_mem _ (ih later))

/-- Two rows of pieces are joined by one separator. -/
theorem joinPieces_append {separator : Char} {front back : List (List Char)}
    (left : front ≠ []) (right : back ≠ []) :
    joinPieces separator (front ++ back) =
      joinPieces separator front ++ separator :: joinPieces separator back := by
  induction front with
  | nil => exact absurd rfl left
  | cons piece rest ih =>
      cases rest with
      | nil =>
          cases back with
          | nil => exact absurd rfl right
          | cons first others => rfl
      | cons next others =>
          have later := ih (by simp)
          simp only [List.cons_append] at later
          simp only [List.cons_append, joinPieces, later, List.append_assoc]

theorem pieces_joinPieces {separator : Char} {row : List (List Char)} (nonempty : row ≠ [])
    (clean : ∀ piece ∈ row, separator ∉ piece) :
    pieces separator (joinPieces separator row) = row := by
  induction row with
  | nil => exact absurd rfl nonempty
  | cons piece rest ih =>
      have first := pieces_eq_singleton (clean piece (by simp))
      cases rest with
      | nil => exact first
      | cons next others =>
          have later := ih (by simp) fun other member => clean other (List.mem_cons_of_mem _ member)
          rw [joinPieces, pieces_append_separator, first, later]
          · rfl
          · simp

end LiveSelector.Text
