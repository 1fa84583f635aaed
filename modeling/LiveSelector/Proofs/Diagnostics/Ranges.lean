import LiveSelector.Proofs.Document.Places

namespace LiveSelector.Document

/-! Where a fault of the grammar is marked.  The lines of its place are brought into the document and
the end of the mark is the end of a line, but the column at which it begins is taken as it is given.
So a mark covers every fault whose place is in the document, and lies in the document if and only if
the fault begins on its line and does not end on an earlier one. -/

variable {document : Document} {source : SourceRange}

/-- The fault begins on its line, once that line has been brought into the document. -/
def BeginsOnLine (document : Document) (source : SourceRange) : Prop :=
  source.start.place.character ≤
    document.lineLength (document.clampLine source.start.place.line)

/-- The line on which the fault ends is not before the one on which it begins, once both have been
brought into the document. -/
def EndsNoEarlier (document : Document) (source : SourceRange) : Prop :=
  document.clampLine source.start.place.line ≤ document.clampLine source.stop.place.line

theorem holds_lineEnd (document : Document) (line : Nat) :
    document.Holds ⟨document.clampLine line, document.lineLength (document.clampLine line)⟩ :=
  ⟨document.clampLine_le line, Nat.le_refl _⟩

theorem spans_wholeLine_zero (document : Document) : document.Spans (document.wholeLine 0) :=
  ⟨⟨Nat.zero_le _, Nat.zero_le _⟩, ⟨Nat.zero_le _, Nat.le_refl _⟩,
    Position.le_of_character_le (Nat.zero_le _)⟩

theorem holds_rangeOf_start_iff :
    document.Holds (document.rangeOf source).start ↔ document.BeginsOnLine source :=
  ⟨And.right, fun begins => ⟨document.clampLine_le _, begins⟩⟩

/-- A mark that begins in the document ends after that if its lines are in order. -/
theorem rangeOf_ordered_iff (begins : document.BeginsOnLine source) :
    (document.rangeOf source).start ≤ (document.rangeOf source).stop ↔
      document.EndsNoEarlier source := by
  constructor
  · rintro (earlier | ⟨same, _⟩)
    · exact Nat.le_of_lt earlier
    · exact Nat.le_of_eq same
  · intro ordered
    rcases Nat.lt_or_eq_of_le ordered with earlier | same
    · exact .inl earlier
    · refine .inr ⟨same, ?_⟩
      have onLine : source.start.place.character ≤
          document.lineLength (document.clampLine source.stop.place.line) := by
        rw [← same]
        exact begins
      exact onLine

theorem spans_rangeOf_iff :
    document.Spans (document.rangeOf source) ↔
      document.BeginsOnLine source ∧ document.EndsNoEarlier source := by
  constructor
  · rintro ⟨start, _, ordered⟩
    have begins := holds_rangeOf_start_iff.mp start
    exact ⟨begins, (rangeOf_ordered_iff begins).mp ordered⟩
  · rintro ⟨begins, later⟩
    exact ⟨holds_rangeOf_start_iff.mpr begins, document.holds_lineEnd _,
      (rangeOf_ordered_iff begins).mpr later⟩

/-- Whatever place a fault is given, the lines of its mark are in the document and the mark ends at
the end of a line.  It begins in the document if and only if the fault begins on its line, and lies in
the document as a whole if and only if, besides, the fault does not end on an earlier line; a fault
without a place always does. -/
theorem spans_diagnosticOf_iff (document : Document) (fault : GrammarError) :
    let range := (document.diagnosticOf fault).range
    range.start.line ≤ document.lastLine ∧ document.Holds range.stop ∧
      range.stop.character = document.lineLength range.stop.line ∧
      (document.Holds range.start ↔
        ∀ source, fault.range = some source → document.BeginsOnLine source) ∧
      (document.Spans range ↔ ∀ source, fault.range = some source →
        document.BeginsOnLine source ∧ document.EndsNoEarlier source) := by
  obtain ⟨message, place⟩ := fault
  cases place with
  | none =>
      obtain ⟨start, stop, ordered⟩ := document.spans_wholeLine_zero
      exact ⟨start.1, stop, rfl, iff_of_true start (by simp),
        iff_of_true ⟨start, stop, ordered⟩ (by simp)⟩
  | some source =>
      refine ⟨document.clampLine_le _, document.holds_lineEnd _, rfl, ?_, ?_⟩
      · simp only [Option.some.injEq, forall_eq']
        exact holds_rangeOf_start_iff
      · simp only [Option.some.injEq, forall_eq']
        exact spans_rangeOf_iff

/-- A fault behind the end of an empty document is marked behind its end, and a fault that ends
before it begins is marked in that order. -/
theorem marked_outside :
    let empty : Document := ⟨⟨"s.temme"⟩, none, "temme", ""⟩
    let lines : Document := ⟨⟨"s.temme"⟩, none, "temme", "a\nb"⟩
    ¬ empty.Spans (empty.diagnosticOf ⟨"Unexpected end", some ⟨⟨1, 2⟩, ⟨1, 2⟩⟩⟩).range ∧
      ¬ lines.Spans (lines.diagnosticOf ⟨"Unexpected end", some ⟨⟨2, 1⟩, ⟨1, 1⟩⟩⟩).range := by
  decide

theorem rangeOf_start (located : document.Locates source.start) :
    (document.rangeOf source).start = source.start.place := by
  have within : source.start.line - 1 ≤ document.lastLine :=
    Nat.sub_le_sub_right located.line_le 1
  rw [rangeOf, clampLine_of_le within]
  rfl

theorem rangeOf_stop (located : document.Locates source.stop) :
    (document.rangeOf source).stop =
      ⟨source.stop.line - 1, document.lineLength (source.stop.line - 1)⟩ := by
  have within : source.stop.line - 1 ≤ document.lastLine :=
    Nat.sub_le_sub_right located.line_le 1
  rw [rangeOf, clampLine_of_le within]

theorem rangeOf_stop_past (past : document.lineCount < source.stop.line) :
    (document.rangeOf source).stop =
      ⟨document.lastLine, document.lineLength document.lastLine⟩ := by
  have after : document.lastLine ≤ source.stop.line - 1 :=
    Nat.sub_le_sub_right (Nat.le_of_lt past) 1
  rw [rangeOf, clampLine_of_ge after]

/-- A fault whose place is in the document is marked from exactly where it begins, and the mark does
not end before the fault does, but at the end of its last line; of a fault that ends behind the last
line the mark ends where that line does.  And where a mark ends, a line of the text ends. -/
theorem diagnosticOf_covers (document : Document) (message : String) (source : SourceRange) :
    let range := (document.diagnosticOf ⟨message, some source⟩).range
    (document.Locates source.start → document.Locates source.stop →
        range.start = source.start.place ∧ source.stop.place ≤ range.stop ∧
          range.stop = ⟨source.stop.line - 1, document.lineLength (source.stop.line - 1)⟩) ∧
      (document.lineCount < source.stop.line →
        range.stop = ⟨document.lastLine, document.lineLength document.lastLine⟩) ∧
      endsLine (document.textAfter range.stop) = true := by
  refine ⟨fun start stop => ⟨rangeOf_start start, ?_, rangeOf_stop stop⟩, rangeOf_stop_past,
    endsLine_textAfter (document.clampLine_lt _)⟩
  have within : source.stop.column - 1 ≤ document.lineLength (source.stop.line - 1) :=
    Nat.sub_le_of_le_add stop.column_le
  exact (rangeOf_stop stop).symm ▸ Position.le_of_character_le within

/-- The mark of a fault at the end of its line stops before the carriage return, and that of a fault
that ends far behind the text stops on the empty line after the last newline. -/
theorem carriage_return_not_marked :
    let document : Document := ⟨⟨"s.temme"⟩, none, "temme", "ul\r\nli\n"⟩
    let near := (document.diagnosticOf ⟨"Unexpected end", some ⟨⟨1, 2⟩, ⟨1, 3⟩⟩⟩).range
    let far := (document.diagnosticOf ⟨"Unexpected end", some ⟨⟨1, 2⟩, ⟨9, 1⟩⟩⟩).range
    document.Locates ⟨1, 2⟩ ∧ document.Locates ⟨1, 3⟩ ∧ document.lineCount < 9 ∧
      near.start = ⟨0, 1⟩ ∧ near.stop = ⟨0, 2⟩ ∧ far.stop = ⟨2, 0⟩ := by
  intro document near far
  have start : document.Locates ⟨1, 2⟩ := ⟨by decide, by decide, by decide, by decide⟩
  have stop : document.Locates ⟨1, 3⟩ := ⟨by decide, by decide, by decide, by decide⟩
  have past : document.lineCount < 9 := by decide
  obtain ⟨covers, _, _⟩ := diagnosticOf_covers document "Unexpected end" ⟨⟨1, 2⟩, ⟨1, 3⟩⟩
  obtain ⟨begins, _, ends⟩ := covers start stop
  obtain ⟨_, last, _⟩ := diagnosticOf_covers document "Unexpected end" ⟨⟨1, 2⟩, ⟨9, 1⟩⟩
  exact ⟨start, stop, past, begins, ends.trans (by decide), (last past).trans (by decide)⟩

end LiveSelector.Document
