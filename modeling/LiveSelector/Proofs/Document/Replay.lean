import LiveSelector.Workspace.Host

namespace LiveSelector

/-! Following a document by its changes.  Whoever applies the announced change of an edit to the old
text gets the new text, unless the edit cuts the text off before one of its newlines: then the range
begins behind that newline, which stays.  Over a row of edits a listener therefore has the text of
the buffer and, at its end, one newline for every such cut. -/

open Text

variable {old new text : String} {front back lines : List (List Char)} {document : DocumentId}
variable {workspace : Workspace}

namespace TextChange

variable {α : Type} [DecidableEq α] {first second : List α}

theorem take_of_le_sharedLength {count : Nat} (within : count ≤ sharedLength first second) :
    first.take count = second.take count := by
  induction first generalizing second count with
  | nil =>
      have none : count = 0 := Nat.le_zero.mp within
      subst none
      rfl
  | cons a rest ih =>
      cases second with
      | nil =>
          have none : count = 0 := Nat.le_zero.mp within
          subst none
          rfl
      | cons b others =>
          cases count with
          | zero => rfl
          | succ count =>
              simp only [sharedLength] at within
              split at within
              · rename_i same
                subst same
                rw [List.take_succ_cons, List.take_succ_cons, ih (Nat.le_of_succ_le_succ within)]
              · omega

theorem sharedLength_of_starts (starts : second <+: first) :
    sharedLength first second = second.length := by
  induction second generalizing first with
  | nil => cases first <;> rfl
  | cons b others ih =>
      obtain ⟨tail, rfl⟩ := starts
      rw [List.cons_append, sharedLength, if_pos rfl, ih (List.prefix_append _ _), List.length_cons]

/-- Lines with a newline after each, the last one included. -/
def ended : List (List Char) → List Char
  | [] => []
  | line :: rest => line ++ '\n' :: ended rest

theorem lengthOf_eq (lines : List (List Char)) : lengthOf lines = (ended lines).length := by
  induction lines with
  | nil => rfl
  | cons line rest ih =>
      rw [lengthOf, ended, ih, List.length_append, List.length_cons]
      omega

theorem joinPieces_ended (front : List (List Char)) (nonempty : back ≠ []) :
    joinPieces '\n' (front ++ back) = ended front ++ joinPieces '\n' back := by
  induction front with
  | nil => rfl
  | cons line rest ih =>
      have more : rest ++ back ≠ [] := by simp [nonempty]
      cases tail : rest ++ back with
      | nil => exact absurd tail more
      | cons next others =>
          rw [tail] at ih
          rw [List.cons_append, tail, joinPieces, ih]
          · simp [ended]
          · simp

theorem ended_eq (nonempty : lines ≠ []) : ended lines = joinPieces '\n' lines ++ ['\n'] := by
  have joined := joinPieces_ended lines (List.cons_ne_nil ([] : List Char) [])
  rw [joinPieces_append nonempty (List.cons_ne_nil _ _)] at joined
  simpa [joinPieces] using joined.symm

theorem joinPieces_rawLines (text : String) : joinPieces '\n' (rawLines text) = text.toList :=
  joinPieces_pieces '\n' text.toList

theorem rawLines_ne_nil (text : String) : rawLines text ≠ [] :=
  pieces_ne_nil '\n' text.toList

theorem offsetOf_last (nonempty : lines ≠ []) :
    offsetOf lines ⟨lines.length - 1, (lines.getLastD []).length⟩ =
      (joinPieces '\n' lines).length := by
  have parts : lines.dropLast ++ [lines.getLast nonempty] = lines :=
    List.dropLast_concat_getLast nonempty
  have joined := joinPieces_ended lines.dropLast (List.cons_ne_nil (lines.getLast nonempty) [])
  rw [parts] at joined
  have last : lines.getLastD [] = lines.getLast nonempty := by
    cases lines with
    | nil => contradiction
    | cons line rest => rfl
  rw [joined, offsetOf, lengthOf_eq, ← List.dropLast_eq_take, last, List.length_append, joinPieces]

theorem take_offsetOf {count : Nat} (within : count < lines.length) :
    (joinPieces '\n' lines).take (offsetOf lines ⟨count, 0⟩) = ended (lines.take count) := by
  have rest : lines.drop count ≠ [] := by
    intro none
    have short := List.drop_eq_nil_iff.mp none
    omega
  have joined := joinPieces_ended (lines.take count) rest
  rw [List.take_append_drop] at joined
  rw [joined, offsetOf, lengthOf_eq, Nat.add_zero, List.take_left]

/-- The new text ends before a newline of the old one, up to which they are the same. -/
def CutsOff (old new : String) : Prop :=
  new.toList ++ ['\n'] <+: old.toList

instance : Decidable (CutsOff old new) :=
  inferInstanceAs (Decidable (_ <+: _))

/-- A text is cut off if and only if whole lines at its end are dropped and nothing else. -/
theorem cutsOff_iff :
    CutsOff old new ↔ rawLines new <+: rawLines old ∧
      (rawLines new).length < (rawLines old).length := by
  constructor
  · rintro ⟨dropped, whole⟩
    have cut : rawLines old = rawLines new ++ pieces '\n' dropped := by
      rw [rawLines, ← whole, List.append_assoc]
      exact pieces_append_separator '\n' new.toList dropped
    have more := List.length_pos_iff.mpr (pieces_ne_nil '\n' dropped)
    rw [cut, List.length_append]
    exact ⟨List.prefix_append _ _, by omega⟩
  · rintro ⟨⟨dropped, whole⟩, shorter⟩
    have some : dropped ≠ [] := by
      rintro rfl
      rw [← whole, List.append_nil] at shorter
      exact Nat.lt_irrefl _ shorter
    refine ⟨joinPieces '\n' dropped, ?_⟩
    rw [← joinPieces_rawLines old, ← whole, joinPieces_append (rawLines_ne_nil new) some,
      joinPieces_rawLines, List.append_assoc]
    rfl

/-- What replacing gives is the lines up to the first change, each with its newline, and then the
rest of the new lines. -/
theorem apply_between_toList (old new : String) :
    ((between old new).apply old).toList =
      ended ((rawLines old).take (between old new).range.start.line) ++
        joinPieces '\n' ((rawLines new).drop (between old new).range.start.line) := by
  have nonempty := List.length_pos_iff.mpr (rawLines_ne_nil old)
  have within : (between old new).range.start.line < (rawLines old).length := by
    simp only [between]
    omega
  have before := take_offsetOf within
  have after := offsetOf_last (rawLines_ne_nil old)
  rw [joinPieces_rawLines] at before after
  simp only [between] at before after ⊢
  simp only [apply, String.toList_ofList, before, after, List.drop_length, List.append_nil]

theorem apply_between (old new : String) :
    (between old new).apply old = if CutsOff old new then new ++ "\n" else new := by
  have nonempty := List.length_pos_iff.mpr (rawLines_ne_nil old)
  have applied := apply_between_toList old new
  have begins : (between old new).range.start.line ≤ sharedLength (rawLines old) (rawLines new) :=
    Nat.min_le_left _ _
  rw [take_of_le_sharedLength begins] at applied
  apply String.toList_injective
  rw [applied]
  by_cases cut : CutsOff old new
  · obtain ⟨starts, shorter⟩ := cutsOff_iff.mp cut
    have whole : (between old new).range.start.line = (rawLines new).length := by
      simp only [between, sharedLength_of_starts starts]
      omega
    rw [if_pos cut, whole, List.take_length, List.drop_length, ended_eq (rawLines_ne_nil new),
      joinPieces_rawLines, String.toList_append]
    exact List.append_nil _
  · -- Otherwise a line of the new text is left, and it joins the lines before it.
    have rest : (rawLines new).drop (between old new).range.start.line ≠ [] := by
      intro none
      have short := List.drop_eq_nil_iff.mp none
      have same := take_of_le_sharedLength begins
      rw [List.take_of_length_le short] at same
      refine cut (cutsOff_iff.mpr ⟨same ▸ List.take_prefix _ _, ?_⟩)
      simp only [between] at short
      omega
    rw [if_neg cut, ← joinPieces_ended _ rest, List.take_append_drop, joinPieces_rawLines]

/-- As many newlines as are counted. -/
def newlines (count : Nat) : String :=
  .ofList (List.replicate count '\n')

theorem rawLines_append_newlines (text : String) (count : Nat) :
    rawLines text <+: rawLines (text ++ newlines count) := by
  simp only [rawLines, newlines, String.toList_append, String.toList_ofList]
  cases count with
  | zero => simp
  | succ count =>
      rw [List.replicate_succ, pieces_append_separator]
      exact List.prefix_append _ _

theorem offsetOf_of_starts {place : Position} (starts : front <+: lines)
    (within : place.line ≤ front.length) : offsetOf lines place = offsetOf front place := by
  obtain ⟨tail, rfl⟩ := starts
  rw [offsetOf, offsetOf, List.take_append_of_le_length within]

theorem apply_between_append (old new : String) (count : Nat) :
    (between old new).apply (old ++ newlines count) =
      (between old new).apply old ++ newlines count := by
  have nonempty := List.length_pos_iff.mpr (rawLines_ne_nil old)
  have within : (between old new).range.start.line < (rawLines old).length := by
    simp only [between]
    omega
  have starts := rawLines_append_newlines old count
  have last := offsetOf_last (rawLines_ne_nil old)
  rw [joinPieces_rawLines] at last
  have before : offsetOf (rawLines old) (between old new).range.start ≤ old.toList.length := by
    have shorter := congrArg List.length (take_offsetOf within)
    rw [joinPieces_rawLines, List.length_take, ← lengthOf_eq] at shorter
    simp only [offsetOf, between] at shorter ⊢
    omega
  apply String.toList_injective
  simp only [apply, String.toList_append, String.toList_ofList]
  rw [offsetOf_of_starts starts (Nat.le_of_lt within),
    offsetOf_of_starts starts (Nat.sub_le _ _), List.take_append_of_le_length before]
  simp only [between, last, List.drop_length, List.drop_left, List.append_nil]

theorem newlines_succ (count : Nat) : newlines (count + 1) = "\n" ++ newlines count := by
  apply String.toList_injective
  simp [newlines, List.replicate_succ]

end TextChange

/-- The text of a document as a listener has it who hears of an event. -/
def EditorEvent.replay (event : EditorEvent) (document : DocumentId) (text : String) : String :=
  match event with
  | .changed other changes =>
    if other = document then changes.foldl (fun held change => change.apply held) text else text
  | _ => text

namespace Workspace

open TextChange

/-- A workspace after edits, and what it has announced; an edit of a document that is not open is
refused and announces nothing. -/
def editAll (workspace : Workspace) : List (DocumentId × String) → Workspace × List EditorEvent
  | [] => (workspace, [])
  | (document, text) :: rest =>
    match workspace.edit document text with
    | .error _ => workspace.editAll rest
    | .ok (after, event) =>
      match after.editAll rest with
      | (last, events) => (last, event :: events)

/-- The text of a document as a listener has it who has heard everything that edits announce. -/
def followed (workspace : Workspace) (document : DocumentId) (text : String)
    (edits : List (DocumentId × String)) : String :=
  (workspace.editAll edits).2.foldl (fun held event => event.replay document held) text

/-- How many of some edits cut a document's text off before a newline. -/
def cuts (document : DocumentId) : String → List (DocumentId × String) → Nat
  | _, [] => 0
  | text, (other, new) :: rest =>
    if other = document then cuts document new rest + (if CutsOff text new then 1 else 0)
    else cuts document text rest

theorem edit_opened (opened : workspace.text? document = some text) (new : String) :
    ∃ after, workspace.edit document new = .ok (after, .changed document [between text new]) ∧
      after.text? document = some new := by
  obtain ⟨buffer, found, rfl⟩ := Option.map_eq_some_iff.mp opened
  refine ⟨workspace.setBuffer document { buffer with text := new }, ?_, ?_⟩
  · simp only [edit, found]
  · simp only [text?, buffer?_setBuffer, if_true, Option.map_some]

theorem edit_other {other : DocumentId} {after : Workspace} {event : EditorEvent}
    (edited : workspace.edit other new = .ok (after, event)) (different : other ≠ document) :
    after.text? document = workspace.text? document ∧
      ∀ held, event.replay document held = held := by
  simp only [edit] at edited
  split at edited
  · contradiction
  · cases edited
    refine ⟨?_, fun held => ?_⟩
    · simp only [text?, buffer?_setBuffer, if_neg different]
    · simp only [EditorEvent.replay, if_neg different]

/-- The listener starts with some newlines too many, and keeps these and those of the cuts. -/
theorem followed_newlines (opened : workspace.text? document = some text) (count : Nat)
    (edits : List (DocumentId × String)) :
    ∃ current, (workspace.editAll edits).1.text? document = some current ∧
      workspace.followed document (text ++ newlines count) edits =
        current ++ newlines (cuts document text edits + count) := by
  induction edits generalizing workspace text count with
  | nil =>
      refine ⟨text, opened, ?_⟩
      simp only [followed, editAll, List.foldl_nil, cuts, Nat.zero_add]
  | cons edit rest ih =>
      obtain ⟨other, new⟩ := edit
      by_cases same : other = document
      · subst same
        obtain ⟨after, edited, now⟩ := edit_opened opened new
        have heard : (EditorEvent.changed other [between text new]).replay other
            (text ++ newlines count) =
              new ++ newlines ((if CutsOff text new then 1 else 0) + count) := by
          simp only [EditorEvent.replay, if_true, List.foldl_cons, List.foldl_nil,
            apply_between_append, apply_between]
          split
          · rw [Nat.add_comm 1 count, newlines_succ, String.append_assoc]
          · rw [Nat.zero_add]
        obtain ⟨current, text, follows⟩ := ih now ((if CutsOff text new then 1 else 0) + count)
        refine ⟨current, ?_, ?_⟩
        · simp only [editAll, edited, text]
        · simp only [followed] at follows ⊢
          simp only [editAll, edited, List.foldl_cons, heard, follows, cuts, if_true,
            Nat.add_assoc]
      · rcases edited : workspace.edit other new with reason | ⟨after, event⟩
        · obtain ⟨current, text, follows⟩ := ih opened count
          simp only [followed] at follows ⊢
          exact ⟨current, by simp only [editAll, edited, text],
            by simp only [editAll, edited, follows, cuts, if_neg same]⟩
        · obtain ⟨kept, unheard⟩ := edit_other edited same
          obtain ⟨current, text, follows⟩ := ih (kept.trans opened) count
          simp only [followed] at follows ⊢
          exact ⟨current, by simp only [editAll, edited, text],
            by simp only [editAll, edited, List.foldl_cons, unheard, follows, cuts, if_neg same]⟩

/-- A listener that applies the changes of edits, however many and of whichever documents, has the
text of the buffer, and behind it a newline for each edit that has cut the text off before one. -/
theorem listener_follows_edits (opened : workspace.text? document = some text)
    (edits : List (DocumentId × String)) :
    ∃ current, (workspace.editAll edits).1.text? document = some current ∧
      workspace.followed document text edits = current ++ newlines (cuts document text edits) := by
  have follows := followed_newlines opened 0 edits
  have none : newlines 0 = "" := rfl
  rwa [none, String.append_empty] at follows

/-- An open selector of two lines. -/
def twoLines : Workspace :=
  (onDisk ⟨[], [([['s', '.', 't', 'e', 'm', 'm', 'e']], .file (.text "h1\nh2"))]⟩).host
    (.openPath (.ofText "s.temme"))

/-- The second line is cut off, and the listener is left with the newline before it. -/
theorem newline_left_behind :
    twoLines.text? ⟨"s.temme"⟩ = some "h1\nh2" ∧
      (twoLines.editAll [(⟨"s.temme"⟩, "h1")]).1.text? ⟨"s.temme"⟩ = some "h1" ∧
      twoLines.followed ⟨"s.temme"⟩ "h1\nh2" [(⟨"s.temme"⟩, "h1")] = "h1\n" := by
  decide +kernel

/-- Lines may be added, changed and taken out before the last one, and a file that is not open may
be edited in vain; only the last edit cuts. -/
theorem listener_follows_four_edits :
    twoLines.text? ⟨"s.temme"⟩ = some "h1\nh2" ∧
      ∃ current, (twoLines.editAll [(⟨"s.temme"⟩, "h1\nh2\n\nh3"), (⟨"t.temme"⟩, "h1"),
          (⟨"s.temme"⟩, "h1\nh3\n"), (⟨"s.temme"⟩, "h1\nh3")]).1.text? ⟨"s.temme"⟩ = some current ∧
        twoLines.followed ⟨"s.temme"⟩ "h1\nh2" [(⟨"s.temme"⟩, "h1\nh2\n\nh3"), (⟨"t.temme"⟩, "h1"),
          (⟨"s.temme"⟩, "h1\nh3\n"), (⟨"s.temme"⟩, "h1\nh3")] = current ++ newlines 1 := by
  have opened : twoLines.text? ⟨"s.temme"⟩ = some "h1\nh2" := by decide +kernel
  exact ⟨opened, listener_follows_edits opened _⟩

end Workspace

end LiveSelector
