import LiveSelector.Proofs.Document.Places
import LiveSelector.Proofs.Link.Tagged
import Mathlib.Data.List.Forall2

namespace LiveSelector

/-! What a document answers when it is asked for its lines.  Its lines and what was cut from their
ends are the whole text, there is always one, and exactly the lines that are counted can be asked for;
so the last line is there, and with it the one that a diagnostic is put on. -/

open Text

/-- A piece of a text between newlines, and the line that is left of it without one carriage return at
its end. -/
inductive Stripped : List Char → List Char → Prop where
  | cut (line : List Char) : Stripped (line ++ ['\r']) line
  | whole {line : List Char} (unended : line.getLast? ≠ some '\r') : Stripped line line

theorem stripped_dropReturn (piece : List Char) : Stripped piece (dropReturn piece) := by
  induction piece with
  | nil => exact .whole (by simp)
  | cons c rest ih =>
      simp only [dropReturn]
      split
      · rename_i final
        rw [final.1, final.2]
        exact .cut []
      · rename_i inner
        generalize dropReturn rest = line at ih
        cases ih with
        | cut => exact .cut (c :: line)
        | whole unended =>
            apply Stripped.whole
            cases rest with
            | nil => simpa using inner
            | cons next others => simpa using unended

theorem dropReturn_begins (piece : List Char) : dropReturn piece <+: piece := by
  rcases dropReturn_append piece with whole | cut
  · exact ⟨[], (List.append_nil _).trans whole⟩
  · exact ⟨['\r'], cut⟩

namespace Document

variable {document : Document} {line : Nat} {chars : List Char}

/-- The lines that can be asked for. -/
def lines (document : Document) : List (List Char) :=
  (List.range document.lineCount).filterMap document.line?

theorem lines_eq (document : Document) :
    document.lines = (rawLines document.text).map dropReturn := by
  have each := filterMap_range (some ∘ dropReturn) (rawLines document.text)
  rw [List.filterMap_eq_map] at each
  have line : document.line? =
      fun place => (rawLines document.text)[place]?.bind (some ∘ dropReturn) := by
    funext place
    rw [line?, Option.map_eq_bind]
  rw [← each, lines, line]
  rfl

theorem line?_isSome_iff : (document.line? line).isSome ↔ line < document.lineCount := by
  simp [line?, lineCount]

theorem line?_of_lt (within : line < document.lineCount) :
    ∃ chars, document.line? line = some chars :=
  Option.isSome_iff_exists.mp (line?_isSome_iff.mpr within)

theorem newline_not_mem_line (found : document.line? line = some chars) : '\n' ∉ chars := by
  obtain ⟨piece, there, rfl⟩ := Option.map_eq_some_iff.mp found
  have clean := separator_not_mem_pieces (List.mem_of_getElem? there)
  exact fun among => clean ((dropReturn_begins piece).subset among)

theorem lineLength_of_line? (found : document.line? line = some chars) :
    document.lineLength line = chars.length := by
  rw [lineLength, found]

theorem lineLength_past (past : document.lineCount ≤ line) : document.lineLength line = 0 := by
  have missing : document.line? line = none := by
    rw [← Option.not_isSome_iff_eq_none, line?_isSome_iff]
    omega
  rw [lineLength, missing]

/-- The lines with their carriage returns, joined by newlines, are the text. -/
theorem lines_whole (document : Document) :
    ∃ pieces, List.Forall₂ Stripped pieces document.lines ∧
      joinPieces '\n' pieces = document.text.toList := by
  refine ⟨rawLines document.text, ?_, joinPieces_pieces '\n' document.text.toList⟩
  rw [lines_eq]
  exact List.forall₂_map_right_iff.mpr (List.forall₂_same.mpr fun piece _ => stripped_dropReturn piece)

/-- Neither the number of lines nor that of the characters between newlines is too large for 32
bits. -/
structure Fits (document : Document) : Prop where
  lines : document.lineCount < UInt32.size
  characters : ∀ piece ∈ rawLines document.text, piece.length < UInt32.size

theorem Fits.lineLength_lt (fits : document.Fits) (line : Nat) :
    document.lineLength line < UInt32.size := by
  by_cases within : line < document.lineCount
  · have there : (rawLines document.text)[line]? = some (rawLines document.text)[line] :=
      List.getElem?_eq_getElem within
    rw [lineLength_eq there]
    exact Nat.lt_of_le_of_lt (dropReturn_begins _).length_le
      (fits.characters _ (List.mem_of_getElem? there))
  · rw [lineLength_past (by omega)]
    decide

/-- A document has a line, and exactly the lines that it counts can be asked for.  They hold no
newline, are as long as they are said to be, and make up the text.  The last one is there, so that a
diagnostic marks a line that is there, whichever it is put on.  The numbers stay what they are in 32
bits if the text is not too long for them. -/
theorem lines_describe (document : Document) :
    1 ≤ document.lineCount ∧
      (∀ line, (document.line? line).isSome ↔ line < document.lineCount) ∧
      (∀ line chars, document.line? line = some chars →
        '\n' ∉ chars ∧ document.lineLength line = chars.length) ∧
      (∀ line, document.lineCount ≤ line → document.lineLength line = 0) ∧
      (∃ pieces, List.Forall₂ Stripped pieces document.lines ∧
        joinPieces '\n' pieces = document.text.toList) ∧
      (document.line? document.lastLine).isSome ∧
      (∀ line message, ∃ chars, document.line? (min line document.lastLine) = some chars ∧
        (document.lineDiagnostic line message).range =
          .onLine (min line document.lastLine) 0 chars.length) ∧
      (document.Fits →
        (UInt32.ofNatClamp document.lineCount).toNat = document.lineCount ∧
          (UInt32.ofNatClamp document.lineCount - 1).toNat = document.lastLine ∧
          ∀ line, (UInt32.ofNatClamp (document.lineLength line)).toNat =
            document.lineLength line) := by
  refine ⟨document.lineCount_pos, fun line => line?_isSome_iff, fun line chars found =>
    ⟨newline_not_mem_line found, lineLength_of_line? found⟩, fun line past => lineLength_past past,
    document.lines_whole, line?_isSome_iff.mpr document.lastLine_lt_lineCount,
    fun line message => ?_, fun fits => ?_⟩
  · obtain ⟨chars, found⟩ := line?_of_lt (document.clampLine_lt line)
    refine ⟨chars, found, ?_⟩
    rw [lineDiagnostic, wholeLine, lineLength_of_line? found]
    rfl
  · have count : (UInt32.ofNatClamp document.lineCount).toNat = document.lineCount :=
      UInt32.toNat_ofNatClamp_of_lt fits.lines
    have some : 1 ≤ UInt32.ofNatClamp document.lineCount := by
      rw [UInt32.le_iff_toNat_le, count]
      exact document.lineCount_pos
    refine ⟨count, ?_, fun line => UInt32.toNat_ofNatClamp_of_lt (fits.lineLength_lt line)⟩
    rw [UInt32.toNat_sub_of_le _ _ some, count]
    rfl

/-- Both ends of a line, a carriage return that stays on its line, and an empty last line. -/
theorem mixed_lines_described :
    let document : Document := ⟨⟨"s.temme"⟩, none, "temme", "ul\r\n\n标\r\r\n"⟩
    document.Fits ∧ document.lines = ["ul".toList, [], "标\r".toList, []] ∧
      (∃ pieces, List.Forall₂ Stripped pieces document.lines ∧
        joinPieces '\n' pieces = document.text.toList) ∧
      (document.line? 9).isSome = false ∧
      (document.lineDiagnostic 9 "Unexpected end").range = .onLine 3 0 0 ∧
      (UInt32.ofNatClamp document.lineCount).toNat = 4 ∧
      (UInt32.ofNatClamp (document.lineLength 2)).toNat = 2 := by
  intro document
  have fits : document.Fits := ⟨by decide, by decide⟩
  obtain ⟨_, listed, _, _, whole, _, marked, words⟩ := lines_describe document
  obtain ⟨count, _, lengths⟩ := words fits
  obtain ⟨chars, last, range⟩ := marked 9 "Unexpected end"
  have missing : (document.line? 9).isSome = false := by
    rw [Bool.eq_false_iff, ne_eq, listed]
    decide
  have empty : chars = [] := by
    have found : document.line? (min 9 document.lastLine) = some [] := by decide
    exact Option.some.inj (last.symm.trans found)
  subst empty
  exact ⟨fits, by decide, whole, missing, range.trans (by decide), count.trans (by decide),
    (lengths 2).trans (by decide)⟩

end Document

end LiveSelector
