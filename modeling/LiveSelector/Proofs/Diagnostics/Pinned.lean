import LiveSelector.Proofs.Document.Places
import LiveSelector.Proofs.Events.Commuting

namespace LiveSelector

/-! Where a failure on the page is marked after an edit.  The line goes from the old text into the
announced change, from there into the ticket, and is brought into the new text at last; each of the
three counts lines on a text of its own. -/

variable {Page : Type} {setup : Setup Page} {engine start now : Engine Page} {watch : Watch Page}
variable {id : DocumentId} {document : Document} {old new : String} {fault : Fault}

namespace TextChange

variable {α : Type} [DecidableEq α]

theorem sharedLength_le (first second : List α) :
    sharedLength first second ≤ first.length ∧ sharedLength first second ≤ second.length := by
  induction first generalizing second with
  | nil => exact ⟨Nat.le_refl _, Nat.zero_le _⟩
  | cons a rest ih =>
      cases second with
      | nil => exact ⟨Nat.zero_le _, Nat.le_refl _⟩
      | cons b others =>
          simp only [sharedLength]
          split
          · exact ⟨Nat.succ_le_succ (ih others).1, Nat.succ_le_succ (ih others).2⟩
          · exact ⟨Nat.zero_le _, Nat.zero_le _⟩

/-- What two lists have in common at their start ends where they differ. -/
theorem getElem?_sharedLength {first second : List α}
    (more : sharedLength first second < first.length) :
    first[sharedLength first second]? ≠ second[sharedLength first second]? := by
  induction first generalizing second with
  | nil => exact absurd more (Nat.not_lt_zero _)
  | cons a rest ih =>
      cases second with
      | nil => simp [sharedLength]
      | cons b others =>
          by_cases same : a = b
          · simp only [sharedLength, if_pos same, List.length_cons] at more ⊢
            exact ih (Nat.lt_of_succ_lt_succ more)
          · simp [sharedLength, same]

end TextChange

/-- Two texts begin with as many lines in common: these are the same, and the next is not, or one of
the texts has no next line. -/
structure LinesShared (old new : String) (count : Nat) : Prop where
  le_old : count ≤ (rawLines old).length
  le_new : count ≤ (rawLines new).length
  same : (rawLines old).take count = (rawLines new).take count
  differ : count < (rawLines old).length → (rawLines old)[count]? ≠ (rawLines new)[count]?

theorem linesShared_sharedLength (old new : String) :
    LinesShared old new (TextChange.sharedLength (rawLines old) (rawLines new)) :=
  ⟨(TextChange.sharedLength_le _ _).1, (TextChange.sharedLength_le _ _).2,
    TextChange.take_of_le_sharedLength (Nat.le_refl _), TextChange.getElem?_sharedLength⟩

theorem LinesShared.le {one other : Nat} (first : LinesShared old new one)
    (second : LinesShared old new other) : one ≤ other := by
  rcases Nat.lt_or_ge other one with less | enough
  · -- The line at which the second count ends is among those that are the same.
    have alike := congrArg (·[other]?) first.same
    simp only [List.getElem?_take_of_lt less] at alike
    exact absurd alike (second.differ (Nat.lt_of_lt_of_le less first.le_old))
  · exact enough

theorem LinesShared.unique {one other : Nat} (first : LinesShared old new one)
    (second : LinesShared old new other) : one = other :=
  Nat.le_antisymm (first.le second) (second.le first)

theorem LinesShared.above {count line : Nat} (shared : LinesShared old new count)
    (within : line ≤ count) : (rawLines old).take line = (rawLines new).take line := by
  have fewer := congrArg (List.take line) shared.same
  rwa [List.take_take, List.take_take, Nat.min_eq_left within] at fewer

theorem Document.lastLine_eq (document : Document) :
    document.lastLine = (rawLines document.text).length - 1 := rfl

theorem Document.getElem?_clampLine (document : Document) (line : Nat) :
    ∃ chars, (rawLines document.text)[document.clampLine line]? = some chars :=
  ⟨_, List.getElem?_eq_getElem (document.clampLine_lt line)⟩

theorem Document.lineDiagnostic_eq {line : Nat} {chars : List Char} (message : String)
    (found : (rawLines document.text)[document.clampLine line]? = some chars) :
    document.lineDiagnostic line message =
      ⟨.onLine (document.clampLine line) 0 (Text.dropReturn chars).length, message⟩ := by
  rw [lineDiagnostic, wholeLine, lineLength_eq found]

namespace Workspace

variable {workspace edited : Workspace} {event : EditorEvent}

theorem document?_of_text? (held : workspace.text? id = some new) :
    ∃ document, workspace.document? id = some document ∧ document.text = new := by
  obtain ⟨buffer, found, rfl⟩ := Option.map_eq_some_iff.mp held
  exact ⟨_, by rw [document?, found, Option.map_some], rfl⟩

theorem event_of_edit (held : workspace.text? id = some old)
    (edit : workspace.edit id new = .ok (edited, event)) :
    event = .changed id [.between old new] := by
  obtain ⟨after, announced, _⟩ := edit_opened held new
  cases announced.symm.trans edit
  rfl

end Workspace

namespace Engine

/-- The line on which an edit begins, brought into the new text. -/
theorem clampLine_changedLine {shared : Nat} (common : LinesShared old new shared)
    (text : document.text = new) :
    document.clampLine
        ((EditorEvent.changed id [TextChange.between old new]).changedLine?.getD 0) =
      min shared (min ((rawLines old).length - 1) ((rawLines new).length - 1)) := by
  rw [Document.clampLine, Document.lastLine_eq, text,
    common.unique (linesShared_sharedLength old new)]
  exact Nat.min_assoc _ _ _

/-- A change of the watched document on whose text the evaluation fails is answered with the line
that is marked, and nothing but this line is marked. -/
theorem handleEvent_failed (settled : Settled engine)
    (installed : engine.session.watch = some watch) (bound : watch.document = id)
    (found : engine.workspace.document? id = some document)
    (fails : setup.selector.evaluate watch.page document.text = .error fault)
    (sound : fault.isSyntax = false) (changes : List TextChange) :
    let diagnostic := document.lineDiagnostic
      ((EditorEvent.changed id changes).changedLine?.getD 0) fault.message
    (engine.handleEvent setup (.changed id changes)).2.evaluation =
        some (.failed diagnostic.range.start.line fault.message) ∧
      (engine.handleEvent setup (.changed id changes)).1.diagnostics.get id = [diagnostic] := by
  subst bound
  have effect : engine.handleEvent setup (.changed watch.document changes) = _ :=
    handleEvent_evaluated settled installed changes
  have shown : (effectOf setup engine.workspace watch
      ((EditorEvent.changed watch.document changes).changedLine?.getD 0)) =
        ⟨engine.workspace, some [document.lineDiagnostic
          ((EditorEvent.changed watch.document changes).changedLine?.getD 0) fault.message], [],
          .failed (document.lineDiagnostic
            ((EditorEvent.changed watch.document changes).changedLine?.getD 0)
            fault.message).range.start.line fault.message⟩ := by
    simp only [effectOf, found, fails, sound, Bool.false_eq_true, if_false]
    rfl
  rw [shown] at effect
  rw [effect]
  refine ⟨rfl, ?_⟩
  simp only [absorb, DiagnosticStore.get_show?, if_true, Option.getD_some]

/-- After an edit of the watched document, whatever has been done before its event is delivered as
long as the text is still the new one, a failure of the evaluation on the page is reported on the
first line that the edit has changed, or on the last line of the old text or of the new one if it is
earlier.  The mark covers that line of the new text from its first character to its last, and above
it the old and the new text are the same. -/
theorem failure_pinned_to_edit {workspace edited : Workspace}
    {before between : List (Setup Page × Operation)} {event : EditorEvent} {shared : Nat}
    (reached : start = (Engine.new workspace).performAll before)
    (held : start.workspace.text? id = some old)
    (edit : start.workspace.edit id new = .ok (edited, event))
    (delivered : now = (start.host (.edit id new)).performAll between)
    (kept : now.workspace.text? id = some new)
    (installed : now.session.watch = some watch) (bound : watch.document = id)
    (fails : setup.selector.evaluate watch.page new = .error fault)
    (sound : fault.isSyntax = false) (common : LinesShared old new shared) :
    let line := min shared (min ((rawLines old).length - 1) ((rawLines new).length - 1))
    ∃ chars, (rawLines new)[line]? = some chars ∧
      (now.handleEvent setup event).2.evaluation = some (.failed line fault.message) ∧
      (now.handleEvent setup event).1.diagnostics.get id =
        [⟨.onLine line 0 (Text.dropReturn chars).length, fault.message⟩] ∧
      (rawLines old).take line = (rawLines new).take line := by
  intro line
  have settled : Settled now := by
    rw [delivered]
    refine settled_performAll ?_ between
    rw [reached]
    exact (settled_performAll (settled_new workspace) before).of_same rfl rfl
  obtain ⟨document, found, text⟩ := Workspace.document?_of_text? kept
  have announced := Workspace.event_of_edit held edit
  subst announced
  have clamped : document.clampLine
      ((EditorEvent.changed id [TextChange.between old new]).changedLine?.getD 0) = line :=
    clampLine_changedLine common text
  rw [← text] at fails
  obtain ⟨reported, marked⟩ := handleEvent_failed settled installed bound found fails sound
    [TextChange.between old new]
  obtain ⟨chars, there⟩ := document.getElem?_clampLine
    ((EditorEvent.changed id [TextChange.between old new]).changedLine?.getD 0)
  rw [Document.lineDiagnostic_eq fault.message there, clamped] at reported marked
  rw [clamped, text] at there
  exact ⟨chars, there, reported, marked, common.above (Nat.min_le_left _ _)⟩

/-- A selector of three lines that is watched. -/
def threeLinesRun : List (Setup Unit × Operation) :=
  failingRun ++ [(failingSetup, .host (.edit ⟨"s.temme"⟩ "h1\nh2\nh3"))]

/-- The last line is taken out and the document put out of sight before the event comes: both texts
begin with two lines in common, but the new one has no third line to mark. -/
theorem failure_pinned_after_cut :
    let start := (Engine.new (.onDisk sampleDisk)).performAll threeLinesRun
    let now := (start.host (.edit ⟨"s.temme"⟩ "h1\nh2")).performAll
      [(failingSetup, .host (.hide ⟨"s.temme"⟩)), (failingSetup, .handleEvent .visibleChanged)]
    let event := EditorEvent.changed ⟨"s.temme"⟩ [.between "h1\nh2\nh3" "h1\nh2"]
    start.workspace.text? ⟨"s.temme"⟩ = some "h1\nh2\nh3" ∧
      now.workspace.text? ⟨"s.temme"⟩ = some "h1\nh2" ∧
      (now.handleEvent failingSetup event).2.evaluation = some (.failed 1 "no such tag") ∧
      (now.handleEvent failingSetup event).1.diagnostics.get ⟨"s.temme"⟩ =
        [⟨.onLine 1 0 2, "no such tag"⟩] := by
  intro start now event
  have held : start.workspace.text? ⟨"s.temme"⟩ = some "h1\nh2\nh3" := by decide +kernel
  have kept : now.workspace.text? ⟨"s.temme"⟩ = some "h1\nh2" := by decide +kernel
  obtain ⟨edited, edit, _⟩ := Workspace.edit_opened held "h1\nh2"
  have common : LinesShared "h1\nh2\nh3" "h1\nh2" 2 :=
    ⟨by decide, by decide, by decide, by decide⟩
  have fails : failingSetup.selector.evaluate () "h1\nh2" =
      .error ⟨"TypeError", "no such tag", none⟩ := rfl
  obtain ⟨chars, there, reported, marked, _⟩ :=
    failure_pinned_to_edit rfl held edit rfl kept rfl rfl fails (by decide) common
  cases there
  exact ⟨held, kept, reported, marked⟩

end Engine

end LiveSelector
