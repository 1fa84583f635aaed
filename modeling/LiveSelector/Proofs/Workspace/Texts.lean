import LiveSelector.Proofs.Workspace.Languages
import LiveSelector.Proofs.Workspace.Replacing
import Mathlib.Data.List.Induction

namespace LiveSelector.Workspace

/-! The texts of open documents.  A document that is opened has the text of its file, an edit or a
replacement that succeeds gives it another, and nothing else changes it until the document is
closed.  So the text of an open document is the last one that an action of the host gave it. -/

variable {workspace start before after : Workspace} {document other id : DocumentId}
variable {path : FilePath} {text : String} {action next : HostAction} {actions : List HostAction}

/-- An action gives a document a text: the document is opened and its file holds the text, or the
text is put in place of another and the action is not refused. -/
inductive Gives (before : Workspace) (document : DocumentId) (text : String) :
    HostAction → Prop where
  | openPath {path : FilePath} (named : path.documentId = document)
      (closed : before.isOpen document = false) (held : before.disk.readText path = .ok text) :
      Gives before document text (.openPath path)
  | openDocument {path : FilePath} (named : path.documentId = document)
      (closed : before.isOpen document = false)
      (opened : (before.openDocument path).2 = .ok document)
      (held : (before.openDocument path).1.disk.readText path = .ok text) :
      Gives before document text (.openDocument path)
  | edit {after : Workspace} {event : EditorEvent}
      (edited : before.edit document text = .ok (after, event)) :
      Gives before document text (.edit document text)
  | replaceAll (replaced : (before.replaceAll document text).2 = .ok ()) :
      Gives before document text (.replaceAll document text)

/-- An action gives a document a text or closes the document. -/
def Touches (before : Workspace) (document : DocumentId) (action : HostAction) : Prop :=
  action = .close document ∨ ∃ text, before.Gives document text action

/-- Some action of a run gave a document a text, and no later one has touched the document. -/
def LastGiven (start : Workspace) (actions : List HostAction) (document : DocumentId)
    (text : String) : Prop :=
  ∃ moment action, actions[moment]? = some action ∧
    (start.hostAll (actions.take moment)).Gives document text action ∧
    ∀ later next, moment < later → actions[later]? = some next →
      ¬ (start.hostAll (actions.take later)).Touches document next

@[simp] theorem text?_setBuffer {buffer : Buffer} :
    (workspace.setBuffer document buffer).text? other =
      if document = other then some buffer.text else workspace.text? other := by
  simp only [text?, buffer?_setBuffer]
  split
  · rfl
  · rfl

theorem isOpen_setBuffer {buffer : Buffer} :
    (workspace.setBuffer document buffer).isOpen other =
      (decide (document = other) || workspace.isOpen other) := by
  simp only [isOpen, buffer?_setBuffer]
  split
  · rename_i same
    simp [same]
  · rename_i different
    simp [different]

theorem open_again (opened : workspace.isOpen path.documentId = true) :
    workspace.openPath path = .ok (workspace, path.documentId) ∧
      workspace.openDocument path = (workspace, .ok path.documentId) := by
  simp only [openPath, openDocument, opened, if_true, and_self]

theorem openPath_closed (closed : workspace.isOpen path.documentId = false) :
    (∃ reason, workspace.disk.readText path = .error reason ∧
        workspace.openPath path = .error (.cannotOpen path reason)) ∨
      ∃ text, workspace.disk.readText path = .ok text ∧ workspace.openPath path =
        .ok (workspace.setBuffer path.documentId ⟨path, workspace.languageOf path, text⟩,
          path.documentId) := by
  simp only [openPath, closed, Bool.false_eq_true, if_false]
  cases read : workspace.disk.readText path with
  | error reason => exact .inl ⟨reason, rfl, rfl⟩
  | ok text => exact .inr ⟨text, rfl, rfl⟩

/-- A document that is opened has the text of its file, which may have been made for it.  Where it
cannot be opened there are at most directories more. -/
theorem openDocument_closed (closed : workspace.isOpen path.documentId = false) :
    ∃ disk,
      (Disk.Makes (Disk.homeDirectory path) workspace.disk disk ∧
        ∃ reason, workspace.openDocument path = ({ workspace with disk }, .error reason)) ∨
      (disk = workspace.disk ∨ workspace.disk.writeAtomic path (.text "") = (disk, .ok ())) ∧
        ∃ text, disk.readText path = .ok text ∧ workspace.openDocument path =
          (setBuffer { workspace with disk } path.documentId
            ⟨path, workspace.languageOf path, text⟩, .ok path.documentId) := by
  simp only [openDocument, closed, Bool.false_eq_true, if_false]
  cases there : workspace.disk.hasNode path with
  | true =>
      refine ⟨workspace.disk, ?_⟩
      obtain ⟨reason, _, refused⟩ | ⟨text, read, opened⟩ := openPath_closed closed
      · exact .inl ⟨.nothing, .cannotOpen path reason, by simp only [if_true, refused]⟩
      · exact .inr ⟨.inl rfl, text, read, by simp only [if_true, opened]⟩
  | false =>
      rcases making : workspace.disk.writeAtomic path (.text "") with ⟨disk, reason | done⟩
      · refine ⟨disk, .inl ⟨Disk.writeAtomic_error_makes making, .cannotOpen path reason, ?_⟩⟩
        simp only [Bool.false_eq_true, if_false]
      · -- A file that has been made is there to be read.
        have held := Disk.writeAtomic_ok_readText making
        have still : ({ workspace with disk } : Workspace).isOpen path.documentId = false := closed
        obtain ⟨reason, unread, _⟩ | ⟨text, read, opened⟩ := openPath_closed still
        · cases held.symm.trans unread
        · refine ⟨disk, .inr ⟨.inr rfl, text, read, ?_⟩⟩
          simp only [Bool.false_eq_true, if_false, opened]
          rfl

theorem text?_of_gives (gives : before.Gives document text action) :
    (before.host action).text? document = some text := by
  cases gives with
  | openPath named closed held =>
      subst named
      obtain ⟨reason, unread, _⟩ | ⟨found, read, opened⟩ := openPath_closed closed
      · rw [unread] at held
        contradiction
      · cases read.symm.trans held
        simp only [host, opened, text?_setBuffer, if_true]
  | openDocument named closed accepted held =>
      subst named
      obtain ⟨disk, ⟨_, reason, refused⟩ | ⟨_, found, read, opened⟩⟩ := openDocument_closed closed
      · rw [refused] at accepted
        contradiction
      · rw [opened] at held
        cases read.symm.trans held
        simp only [host, opened, text?_setBuffer, if_true]
  | edit edited =>
      simp only [host, edited]
      simp only [Workspace.edit] at edited
      split at edited
      · contradiction
      · cases edited
        simp only [text?_setBuffer, if_true]
  | replaceAll replaced =>
      rcases replacing : before.replaceAll document text with ⟨after, reason | done⟩
      · rw [replacing] at replaced
        contradiction
      · obtain ⟨buffer, disk, _, _, rfl⟩ := replaceAll_written replacing
        simp only [host, replacing, text?_setBuffer, if_true]

theorem text?_close : (workspace.host (.close document)).text? document = none := by
  simp only [host, close]
  split
  · simp only [text?, buffer?, withoutFocus, Table.get?_erase, if_true, Option.map_none]
  · rename_i closed
    have none : workspace.buffer? document = none := by simpa [isOpen] using closed
    simp only [text?, none, Option.map_none]

theorem text?_untouched (kept : action.keepsRules = true)
    (untouched : ¬ before.Touches document action) :
    (before.host action).text? document = before.text? document := by
  have ungiven : ∀ text, ¬ before.Gives document text action :=
    fun text gives => untouched (.inr ⟨text, gives⟩)
  cases action with
  | fresh => contradiction
  | register rule => contradiction
  | disk disk => rfl
  | hide other => rfl
  | openPath path =>
      cases opened : before.isOpen path.documentId with
      | true => simp only [host, (open_again opened).1]
      | false =>
          obtain ⟨reason, _, refused⟩ | ⟨text, read, opening⟩ := openPath_closed opened
          · simp only [host, refused]
          · have different : path.documentId ≠ document := by
              rintro rfl
              exact ungiven text (.openPath rfl opened read)
            simp only [host, opening, text?_setBuffer, if_neg different]
  | openDocument path =>
      cases opened : before.isOpen path.documentId with
      | true => simp only [host, (open_again opened).2]
      | false =>
          obtain ⟨disk, ⟨_, reason, refused⟩ | ⟨_, text, read, opening⟩⟩ :=
            openDocument_closed opened
          · simp only [host, refused]
            rfl
          · have different : path.documentId ≠ document := by
              rintro rfl
              exact ungiven text
                (.openDocument rfl opened (by rw [opening]) (by rw [opening]; exact read))
            simp only [host, opening, text?_setBuffer, if_neg different]
            rfl
  | setActive other =>
      simp only [host, setActive]
      cases before.isOpen other with
      | true => rfl
      | false => rfl
  | showBeside other =>
      simp only [host, showBeside]
      cases before.isOpen other with
      | true => rfl
      | false => rfl
  | edit other text =>
      cases found : before.buffer? other with
      | none => simp only [host, edit, found]
      | some buffer =>
          have different : other ≠ document := by
            rintro rfl
            exact ungiven text (.edit (by simp only [edit, found]; rfl))
          simp only [host, edit, found, text?_setBuffer, if_neg different]
  | save other =>
      simp only [host, save]
      split
      · rfl
      · split <;> rfl
  | replaceAll other text =>
      rcases replacing : before.replaceAll other text with ⟨after, reason | done⟩
      · have same := (replaceAll_failed replacing).1
        simp only [host, replacing, text?, buffer?, same]
      · have different : other ≠ document := by
          rintro rfl
          exact ungiven text (.replaceAll (by rw [replacing]))
        simp only [host, text?, replaceAll_buffer? (Ne.symm different)]
  | close other =>
      have different : other ≠ document := by
        rintro rfl
        exact untouched (.inl rfl)
      simp only [host, close]
      split
      · have apart : other.text ≠ document.text := by
          cases other
          cases document
          simpa using different
        simp only [text?, buffer?, withoutFocus, Table.get?_erase, if_neg apart]
      · rfl

theorem hostAll_concat : start.hostAll (actions ++ [next]) = (start.hostAll actions).host next := by
  simp only [hostAll, List.foldl_append, List.foldl_cons, List.foldl_nil]

/-- The last text is the one that the last action gives or, if that action does not touch the
document, the one that was the last before it. -/
theorem lastGiven_concat :
    LastGiven start (actions ++ [next]) document text ↔
      (start.hostAll actions).Gives document text next ∨
        ¬ (start.hostAll actions).Touches document next ∧
          LastGiven start actions document text := by
  have lastThere : (actions ++ [next])[actions.length]? = some next := List.getElem?_concat_length
  have allBefore : (actions ++ [next]).take actions.length = actions := List.take_left
  constructor
  · rintro ⟨moment, action, there, gives, lasts⟩
    rcases Nat.lt_trichotomy moment actions.length with early | now | late
    · have untouched := lasts actions.length next early lastThere
      rw [allBefore] at untouched
      rw [List.getElem?_append_left early] at there
      rw [List.take_append_of_le_length (Nat.le_of_lt early)] at gives
      refine .inr ⟨untouched, moment, action, there, gives, ?_⟩
      intro later following after found
      have within : later < actions.length := (List.getElem?_eq_some_iff.mp found).1
      have still := lasts later following after (by rw [List.getElem?_append_left within, found])
      rwa [List.take_append_of_le_length (Nat.le_of_lt within)] at still
    · subst now
      cases lastThere.symm.trans there
      rw [allBefore] at gives
      exact .inl gives
    · have within := (List.getElem?_eq_some_iff.mp there).1
      rw [List.length_append, List.length_singleton] at within
      omega
  · rintro (gives | ⟨untouched, moment, action, there, gives, lasts⟩)
    · refine ⟨actions.length, next, lastThere, by rwa [allBefore], ?_⟩
      intro later following after found
      have within := (List.getElem?_eq_some_iff.mp found).1
      rw [List.length_append, List.length_singleton] at within
      omega
    · have early := (List.getElem?_eq_some_iff.mp there).1
      refine ⟨moment, action, by rw [List.getElem?_append_left early, there],
        by rwa [List.take_append_of_le_length (Nat.le_of_lt early)], ?_⟩
      intro later following after found
      rcases Nat.lt_trichotomy later actions.length with within | now | beyond
      · rw [List.getElem?_append_left within] at found
        rw [List.take_append_of_le_length (Nat.le_of_lt within)]
        exact lasts later following after found
      · subst now
        cases lastThere.symm.trans found
        rwa [allBefore]
      · have inside := (List.getElem?_eq_some_iff.mp found).1
        rw [List.length_append, List.length_singleton] at inside
        omega

/-- After any run a document has the text that was given to it last, and is closed if there is no
such text. -/
theorem text?_hostAll (closed : ∀ document, start.text? document = none)
    (kept : ∀ action ∈ actions, action.keepsRules = true) :
    (start.hostAll actions).text? document = some text ↔ LastGiven start actions document text := by
  induction actions using List.reverseRecOn with
  | nil =>
      have never : ¬ LastGiven start [] document text := by
        rintro ⟨moment, action, there, _⟩
        simp at there
      simpa [hostAll, closed document] using never
  | append_singleton actions next ih =>
      have earlier := ih fun action member => kept action (List.mem_append_left _ member)
      rw [hostAll_concat, lastGiven_concat]
      by_cases touched : (start.hostAll actions).Touches document next
      · rcases touched with rfl | ⟨given, gives⟩
        · rw [text?_close]
          refine iff_of_false (by simp) ?_
          rintro (gives | ⟨untouched, _⟩)
          · cases gives
          · exact untouched (.inl rfl)
        · constructor
          · intro same
            rw [text?_of_gives gives, Option.some.injEq] at same
            subst same
            exact .inl gives
          · rintro (gives | ⟨untouched, _⟩)
            · exact text?_of_gives gives
            · exact absurd (.inr ⟨given, gives⟩) untouched
      · have ungiven : ¬ (start.hostAll actions).Gives document text next :=
          fun gives => touched (.inr ⟨text, gives⟩)
        rw [text?_untouched (kept next (by simp)) touched, earlier]
        simp only [ungiven, touched, not_false_eq_true, true_and, false_or]

end LiveSelector.Workspace
