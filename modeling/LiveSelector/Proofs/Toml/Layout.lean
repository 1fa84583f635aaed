import LiveSelector.Proofs.Toml.Growth
import LiveSelector.Proofs.Toml.Remainders
import LiveSelector.Text.Lines
import Mathlib.Data.List.TakeWhile

namespace LiveSelector.Toml

/-! Where the statements of a document stand.  Reading takes a document from its first line to its
last, and no two statements share a line, so each of them has a line on which it begins, and these
lines ascend.  A document's line ends are unified before it is read, and a mark of its byte order is
dropped; that moves nothing to another line. -/

/-- A statement with the line, counted from one, on which it begins, the text it is written with and
the table that its entries go to. -/
structure Placed where
  line : Nat
  text : List Char
  table : List (List Char)
  statement : Statement

/-- The path from the root that a statement follows. -/
def Placed.path (placed : Placed) : List (List Char) :=
  placed.statement.pathUnder placed.table

/-- The statements that stand in a text, from a line on and under a table. -/
inductive Lays : Nat → List (List Char) → List Char → List Placed → Prop where
  | done {line : Nat} {table : List (List Char)} {text : List Char}
      (empty : skipBlanks text = []) : Lays line table text []
  | blank {line : Nat} {table : List (List Char)} {text rest : List Char} {placed : List Placed}
      (empty : skipBlanks text = '\n' :: rest) (later : Lays (line + 1) table rest placed) :
      Lays line table text placed
  | comment {line : Nat} {table : List (List Char)} {text rest after : List Char}
      {placed : List Placed} (opened : skipBlanks text = '#' :: rest)
      (dropped : dropComment? rest = some after) (later : Lays line table after placed) :
      Lays line table text placed
  | statement {line : Nat} {table : List (List Char)} {text own after rest : List Char}
      {statement : Statement} {placed : List Placed} (start : skipBlanks text = own ++ after)
      (read : readStatement? (own ++ after) = some (statement, after))
      (ended : endLine? after = some rest)
      (later : Lays (line + own.count '\n' + 1) (statement.tableAfter table) rest placed) :
      Lays line table text (⟨line, own, table, statement⟩ :: placed)

variable {line count : Nat} {table : List (List Char)} {text : List Char} {placed : List Placed}

/-- The statements that are read are those that stand in the text. -/
theorem readStatements?_lays {statements : List Statement}
    (read : readStatements? count text = some statements) (line : Nat)
    (table : List (List Char)) :
    ∃ placed, Lays line table text placed ∧ placed.map Placed.statement = statements := by
  induction count generalizing text statements line table with
  | zero => cases read
  | succ count ih =>
      unfold readStatements? at read
      split at read
      · rename_i empty
        cases read
        exact ⟨[], .done empty, rfl⟩
      · rename_i rest empty
        obtain ⟨placed, later, same⟩ := ih read (line + 1) table
        exact ⟨placed, .blank empty later, same⟩
      · rename_i rest opened
        split at read
        · rename_i after dropped
          obtain ⟨placed, later, same⟩ := ih read line table
          exact ⟨placed, .comment opened dropped later, same⟩
        · cases read
      · split at read
        · cases read
        · rename_i statement afterStatement first
          split at read
          · cases read
          · rename_i rest ended
            obtain ⟨others, more, rfl⟩ := Option.map_eq_some_iff.mp read
            obtain ⟨own, whole⟩ := readStatement?_suffix first
            obtain ⟨placed, later, same⟩ :=
              ih more (line + own.count '\n' + 1) (statement.tableAfter table)
            have start : skipBlanks text = own ++ afterStatement := whole.symm
            rw [start] at first
            refine ⟨⟨line, own, table, statement⟩ :: placed, .statement start first ended later, ?_⟩
            rw [List.map_cons, same]

namespace Lays

theorem line_le (lays : Lays line table text placed) :
    ∀ statement ∈ placed, line ≤ statement.line := by
  induction lays with
  | done => simp
  | blank _ _ ih => exact fun statement member => Nat.le_of_succ_le (ih statement member)
  | comment _ _ _ ih => exact ih
  | statement _ _ _ _ ih =>
      intro statement member
      rcases List.mem_cons.mp member with rfl | later
      · exact Nat.le_refl _
      · have behind := ih statement later
        omega

theorem ascending (lays : Lays line table text placed) :
    placed.Pairwise (·.line < ·.line) := by
  induction lays with
  | done => exact .nil
  | blank _ _ ih => exact ih
  | comment _ _ _ ih => exact ih
  | statement _ _ _ later ih =>
      refine List.pairwise_cons.mpr ⟨fun statement member => ?_, ih⟩
      have behind := later.line_le statement member
      simp only
      omega

end Lays

/-- Each statement stands under the table that the ones before it leave. -/
inductive Follows : List (List Char) → List Placed → Prop where
  | nil {table : List (List Char)} : Follows table []
  | cons {first : Placed} {rest : List Placed}
      (later : Follows (first.statement.tableAfter first.table) rest) :
      Follows first.table (first :: rest)

theorem Lays.follows (lays : Lays line table text placed) : Follows table placed := by
  induction lays with
  | done => exact .nil
  | blank _ _ ih => exact ih
  | comment _ _ _ ih => exact ih
  | @statement line table _ own _ _ statement placed _ _ _ _ ih =>
      let first : Placed := ⟨line, own, table, statement⟩
      have later : Follows (first.statement.tableAfter first.table) placed := ih
      exact .cons later

/-- A statement stands under the table where the text begins or under one that a statement before it
has led to. -/
theorem Follows.leader {own : Placed} {front back : List Placed}
    (follows : Follows table (front ++ own :: back)) :
    own.table = table ∨ ∃ before ∈ front, before.path = own.table := by
  induction front generalizing table with
  | nil =>
      cases follows
      exact .inl rfl
  | cons first front ih =>
      cases follows with
      | cons later =>
          rcases ih later with same | ⟨before, among, path⟩
          · cases kind : first.statement with
            | table path =>
                rw [kind] at same
                exact .inr ⟨first, List.mem_cons_self, by rw [Placed.path, kind, same]; rfl⟩
            | tables path =>
                rw [kind] at same
                exact .inr ⟨first, List.mem_cons_self, by rw [Placed.path, kind, same]; rfl⟩
            | entry path value =>
                rw [kind] at same
                exact .inl same
          · exact .inr ⟨before, List.mem_cons_of_mem _ among, path⟩

/-! Counting line ends -/

theorem skipBlanks_split (text : List Char) :
    ∃ blanks, text = blanks ++ skipBlanks text ∧ blanks.count '\n' = 0 := by
  refine ⟨text.takeWhile isBlank, List.takeWhile_append_dropWhile.symm, ?_⟩
  apply List.count_eq_zero.mpr
  intro member
  have blank := List.mem_takeWhile_imp member
  exact absurd blank (by decide)

variable {after rest : List Char}

theorem dropComment?_split (dropped : dropComment? text = some after) :
    ∃ comment, text = comment ++ after ∧ comment.count '\n' = 0 := by
  induction text with
  | nil =>
      cases dropped
      exact ⟨[], rfl, rfl⟩
  | cons c others ih =>
      simp only [dropComment?] at dropped
      split at dropped
      · cases dropped
        exact ⟨[], rfl, rfl⟩
      · rename_i ordinary
        split at dropped
        · obtain ⟨comment, whole, flat⟩ := ih dropped
          refine ⟨c :: comment, by rw [whole, List.cons_append], ?_⟩
          rw [List.count_cons_of_ne ordinary, flat]
        · cases dropped

theorem comment_split {comment : List Char} (opened : skipBlanks text = '#' :: comment)
    (dropped : dropComment? comment = some after) :
    ∃ line, text = line ++ after ∧ line.count '\n' = 0 := by
  obtain ⟨blanks, whole, blank⟩ := skipBlanks_split text
  obtain ⟨own, parts, flat⟩ := dropComment?_split dropped
  refine ⟨blanks ++ '#' :: own, ?_, ?_⟩
  · rw [List.append_assoc, List.cons_append, ← parts, ← opened]
    exact whole
  · rw [List.count_append, List.count_cons_of_ne (by decide), blank, flat]

theorem endLine?_cases (ended : endLine? text = some rest) :
    ∃ line tail, text = line ++ tail ∧ line.count '\n' = 0 ∧
      (tail = '\n' :: rest ∨ tail = [] ∧ rest = []) := by
  obtain ⟨blanks, whole, blank⟩ := skipBlanks_split text
  unfold endLine? at ended
  simp only at ended
  split at ended
  · rename_i found
    cases ended
    split at found
    · rename_i opened
      obtain ⟨line, parts, flat⟩ := comment_split opened found
      exact ⟨line, [], parts, flat, .inr ⟨rfl, rfl⟩⟩
    · rw [Option.some.inj found] at whole
      exact ⟨blanks, [], whole, blank, .inr ⟨rfl, rfl⟩⟩
  · rename_i found
    cases ended
    split at found
    · rename_i opened
      obtain ⟨line, parts, flat⟩ := comment_split opened found
      exact ⟨line, '\n' :: rest, parts, flat, .inl rfl⟩
    · rw [Option.some.inj found] at whole
      exact ⟨blanks, '\n' :: rest, whole, blank, .inl rfl⟩
  · cases ended

/-- Up to the end of a line there is one line end, unless the text ends with it. -/
theorem endLine?_split (ended : endLine? text = some rest) :
    ∃ line, text = line ++ rest ∧ (line.count '\n' = 1 ∨ rest = []) := by
  obtain ⟨line, tail, whole, flat, broken | last⟩ := endLine?_cases ended
  · refine ⟨line ++ ['\n'], by rw [whole, broken, List.append_assoc]; rfl, .inl ?_⟩
    rw [List.count_append, flat]
    rfl
  · exact ⟨line, by rw [whole, last.1, last.2], .inr last.2⟩

theorem readStatement?_nil : readStatement? [] = none := by
  rfl

/-- A statement is read from its place in the text, and its line is as many lines further on as
there are line ends before it. -/
theorem Lays.located (lays : Lays line table text placed) :
    ∀ statement ∈ placed, ∃ front back, text = front ++ (statement.text ++ back) ∧
      statement.line = line + front.count '\n' ∧
      readStatement? (statement.text ++ back) = some (statement.statement, back) := by
  induction lays with
  | done => simp
  | @blank line table text rest placed empty later ih =>
      intro statement member
      obtain ⟨front, back, whole, number, read⟩ := ih statement member
      obtain ⟨blanks, parts, flat⟩ := skipBlanks_split text
      refine ⟨blanks ++ '\n' :: front, back, ?_, ?_, read⟩
      · rw [parts, empty, whole, List.append_assoc, List.cons_append]
      · rw [List.count_append, List.count_cons_self, flat, number]
        omega
  | @comment line table text rest after placed opened dropped later ih =>
      intro statement member
      obtain ⟨front, back, whole, number, read⟩ := ih statement member
      obtain ⟨own, parts, flat⟩ := comment_split opened dropped
      refine ⟨own ++ front, back, ?_, ?_, read⟩
      · rw [parts, whole, List.append_assoc]
      · rw [List.count_append, flat, number]
        omega
  | @statement line table text own after rest statement placed start read ended later ih =>
      obtain ⟨blanks, parts, flat⟩ := skipBlanks_split text
      intro other member
      rcases List.mem_cons.mp member with first | member
      · rw [first]
        refine ⟨blanks, after, ?_, ?_, read⟩
        · rw [← start]
          exact parts
        · rw [flat, Nat.add_zero]
      · obtain ⟨front, back, whole, number, again⟩ := ih other member
        obtain ⟨tail, own', one | empty⟩ := endLine?_split ended
        · refine ⟨blanks ++ (own ++ (tail ++ front)), back, ?_, ?_, again⟩
          · rw [parts, start, own', whole]
            simp only [List.append_assoc]
          · rw [List.count_append, List.count_append, List.count_append, flat, one, number]
            omega
        · rw [empty] at whole
          have nothing := List.append_eq_nil_iff.mp whole.symm
          rw [nothing.2, readStatement?_nil] at again
          cases again

/-! Lines of the file -/

/-- A text without separators lies in the piece that the separators before it lead to. -/
theorem pieces_getElem? {separator : Char} {own : List Char} (clean : separator ∉ own)
    (front back : List Char) :
    ∃ piece, (Text.pieces separator (front ++ (own ++ back)))[front.count separator]? = some piece ∧
      own <:+: piece := by
  induction front with
  | nil =>
      obtain ⟨first, others, cut⟩ :=
        List.exists_cons_of_ne_nil (Text.pieces_ne_nil separator back)
      refine ⟨own ++ first, ?_, (List.prefix_append own first).isInfix⟩
      rw [List.nil_append, Text.pieces_append_clean clean cut]
      rfl
  | cons c front ih =>
      obtain ⟨piece, found, inside⟩ := ih
      by_cases ends : c = separator
      · refine ⟨piece, ?_, inside⟩
        rw [List.cons_append, Text.pieces, if_pos ends, ends, List.count_cons_self,
          List.getElem?_cons_succ]
        exact found
      · obtain ⟨first, others, cut⟩ :=
          List.exists_cons_of_ne_nil (Text.pieces_ne_nil separator (front ++ (own ++ back)))
        rw [List.cons_append, List.count_cons_of_ne ends, Text.pieces, if_neg ends, cut]
        rw [cut] at found
        cases number : front.count separator with
        | zero =>
            rw [number] at found
            cases found
            exact ⟨c :: piece, rfl, List.infix_cons inside⟩
        | succ number' =>
            rw [number] at found
            exact ⟨piece, found, inside⟩

/-- The pieces between newlines, each but the last without a carriage return at its end. -/
def cutReturns : List (List Char) → List (List Char)
  | [] => []
  | [last] => [last]
  | piece :: rest => Text.dropReturn piece :: cutReturns rest

theorem newline_of_empty_piece {text next : List Char} {others : List (List Char)}
    (cut : Text.pieces '\n' text = [] :: next :: others) : ∃ rest, text = '\n' :: rest := by
  cases text with
  | nil => cases cut
  | cons c rest =>
      by_cases ends : c = '\n'
      · exact ⟨rest, by rw [ends]⟩
      · obtain ⟨piece, tail, rows⟩ := List.exists_cons_of_ne_nil (Text.pieces_ne_nil '\n' rest)
        rw [Text.pieces, if_neg ends, rows] at cut
        cases cut

theorem pieces_unifyBreaks (text : List Char) :
    Text.pieces '\n' (unifyBreaks text) = cutReturns (Text.pieces '\n' text) := by
  fun_induction unifyBreaks text with
  | case1 => rfl
  | case2 rest ih =>
      obtain ⟨first, others, cut⟩ := List.exists_cons_of_ne_nil (Text.pieces_ne_nil '\n' rest)
      rw [Text.pieces, if_pos rfl, ih]
      simp [Text.pieces, cut, cutReturns, Text.dropReturn]
  | case3 c rest unbroken ih =>
      obtain ⟨first, others, cut⟩ := List.exists_cons_of_ne_nil (Text.pieces_ne_nil '\n' rest)
      rw [cut] at ih
      by_cases ends : c = '\n'
      · rw [Text.pieces, Text.pieces, if_pos ends, if_pos ends, ih, cut]
        rfl
      · rw [Text.pieces, Text.pieces, if_neg ends, if_neg ends, ih, cut]
        cases others with
        | nil => rfl
        | cons next others =>
            -- A carriage return that is kept does not stand before a newline.
            have kept : ¬ (c = '\r' ∧ first = []) := by
              intro both
              rw [both.2] at cut
              obtain ⟨tail, broken⟩ := newline_of_empty_piece cut
              exact unbroken tail both.1 broken
            simp only [cutReturns, Text.dropReturn, if_neg kept]

theorem endedLines_getElem? {pieces : List (List Char)} {piece : List Char} {index : Nat}
    (found : (cutReturns pieces)[index]? = some piece) (solid : piece ≠ []) :
    (Text.endedLines pieces)[index]? = some piece := by
  induction pieces generalizing index with
  | nil => cases found
  | cons first rest ih =>
      cases rest with
      | nil =>
          cases index with
          | zero =>
              cases found
              simp [Text.endedLines, solid]
          | succ index => cases found
      | cons next others =>
          cases index with
          | zero => exact found
          | succ index => exact ih found

/-- A mark in front of a text is part of its first line. -/
theorem readLines_mark {content line : List Char} {index : Nat}
    (found : (Text.readLines content)[index]? = some line) :
    ∃ marked, (Text.readLines ('\uFEFF' :: content))[index]? = some marked ∧ line <:+ marked := by
  obtain ⟨first, others, cut⟩ := List.exists_cons_of_ne_nil (Text.pieces_ne_nil '\n' content)
  have marks : Text.pieces '\n' ('\uFEFF' :: content) = ('\uFEFF' :: first) :: others := by
    rw [Text.pieces, if_neg (by decide), cut]
  rw [Text.readLines, cut] at found
  rw [Text.readLines, marks]
  cases index with
  | zero =>
      cases others with
      | nil =>
          simp only [Text.endedLines] at found
          split at found
          · cases found
          · cases found
            exact ⟨'\uFEFF' :: line, rfl, List.suffix_cons _ _⟩
      | cons next others =>
          have kept : ¬ ('\uFEFF' = '\r' ∧ first = []) := fun both => absurd both.1 (by decide)
          cases found
          refine ⟨Text.dropReturn ('\uFEFF' :: first), rfl, ?_⟩
          rw [Text.dropReturn, if_neg kept]
          exact List.suffix_cons _ _
  | succ index =>
      cases others with
      | nil =>
          simp only [Text.endedLines] at found
          split at found <;> cases found
      | cons next others => exact ⟨line, found, List.suffix_refl _⟩

/-- The line on which a statement begins holds it, if it is written on one line. -/
theorem Lays.line_holds {content : List Char}
    (lays : Lays 1 [] (unifyBreaks (dropByteOrder content)) placed) {statement : Placed}
    (member : statement ∈ placed) (flat : '\n' ∉ statement.text) :
    ∃ index line, statement.line = index + 1 ∧
      (Text.readLines content)[index]? = some line ∧ statement.text <:+: line := by
  obtain ⟨front, back, whole, number, read⟩ := lays.located statement member
  obtain ⟨piece, found, inside⟩ := pieces_getElem? flat front back
  rw [← whole, pieces_unifyBreaks] at found
  have solid : piece ≠ [] := by
    intro empty
    rw [empty, List.infix_nil] at inside
    obtain ⟨c, others, among, behind⟩ := readStatement?_takes read
    have shorter := among.length_le
    have longer := behind.length_le
    rw [inside, List.nil_append, List.length_cons] at shorter
    omega
  have listed := endedLines_getElem? found solid
  refine ⟨front.count '\n', ?_⟩
  unfold dropByteOrder at listed
  split at listed
  · obtain ⟨marked, among, behind⟩ := readLines_mark listed
    exact ⟨marked, by omega, among, inside.trans behind.isInfix⟩
  · exact ⟨piece, by omega, listed, inside⟩

end LiveSelector.Toml
