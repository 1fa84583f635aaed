import LiveSelector.Proofs.Workspace.Confined
import LiveSelector.Proofs.Workspace.Texts

namespace LiveSelector.Workspace

/-! A document is opened, shown and written to.  A file that has been made for it can be read and
written again, so whichever of the three steps is refused, no file has appeared or changed. -/

variable {workspace opened shown after : Workspace} {document id : DocumentId} {path : FilePath}
variable {text : String} {reason : WorkspaceError}

/-- What opening a document has done: nothing, or its file has been read, which may have been made
for it. -/
theorem openDocument_ok (opening : workspace.openDocument path = (opened, .ok id)) :
    id = path.documentId ∧
      (opened = workspace ∧ workspace.isOpen id = true ∨
        workspace.isOpen id = false ∧ ∃ disk text, (disk = workspace.disk ∨
            workspace.disk.writeAtomic path (.text "") = (disk, .ok ())) ∧
          opened = setBuffer { workspace with disk } id
            ⟨path, workspace.languageOf path, text⟩) := by
  have named : id = path.documentId := openDocument_id (by rw [opening])
  subst named
  refine ⟨rfl, ?_⟩
  cases already : workspace.isOpen path.documentId with
  | true =>
      rw [(open_again already).2] at opening
      cases opening
      exact .inl ⟨rfl, rfl⟩
  | false =>
      obtain ⟨disk, ⟨_, reason, refused⟩ | ⟨made, text, _, read⟩⟩ := openDocument_closed already
      · cases opening.symm.trans refused
      · cases opening.symm.trans read
        exact .inr ⟨rfl, disk, text, made, rfl⟩

theorem openDocument_refused (opening : workspace.openDocument path = (opened, .error reason)) :
    ∃ disk, opened = { workspace with disk } ∧
      Disk.Makes (Disk.homeDirectory path) workspace.disk disk := by
  cases already : workspace.isOpen path.documentId with
  | true => cases opening.symm.trans (open_again already).2
  | false =>
      obtain ⟨disk, ⟨made, reason, refused⟩ | ⟨_, text, _, read⟩⟩ := openDocument_closed already
      · cases opening.symm.trans refused
        exact ⟨disk, rfl, made⟩
      · cases opening.symm.trans read

theorem openDocument_error (opening : workspace.openDocument path = (opened, .error reason))
    (place : Place) : opened.disk.file? place = workspace.disk.file? place := by
  obtain ⟨disk, rfl, made⟩ := openDocument_refused opening
  exact made.grows.file? place

theorem openDocument_isOpen (opening : workspace.openDocument path = (opened, .ok id)) :
    opened.isOpen id = true := by
  obtain ⟨_, ⟨rfl, already⟩ | ⟨_, disk, text, _, rfl⟩⟩ := openDocument_ok opening
  · exact already
  · simp [isOpen_setBuffer]

/-- A document that is open stays as it is when another one is opened, or the same one again. -/
theorem openDocument_document? {held : Document}
    (opening : workspace.openDocument path = (opened, .ok id))
    (found : workspace.document? document = some held) : opened.document? document = some held := by
  obtain ⟨_, ⟨rfl, _⟩ | ⟨closed, disk, text, _, rfl⟩⟩ := openDocument_ok opening
  · exact found
  · have different : id ≠ document := by
      rintro rfl
      obtain ⟨buffer, there, _⟩ := document?_buffer found
      simp [isOpen, there] at closed
    simp only [document?, buffer?_setBuffer, if_neg different]
    exact found

theorem showBeside_ok (showing : workspace.showBeside document = .ok shown) :
    workspace.isOpen document = true ∧
      shown = { workspace with visible := addVisible workspace.visible document } := by
  simp only [showBeside] at showing
  split at showing
  · cases showing
    exact ⟨‹_›, rfl⟩
  · cases showing

theorem isVisible_showBeside (showing : workspace.showBeside document = .ok shown) :
    shown.isVisible document = true := by
  obtain ⟨_, rfl⟩ := showBeside_ok showing
  simp only [isVisible, addVisible]
  split
  · assumption
  · simp

theorem showBeside_visible (present : workspace.isOpen document = true)
    (sight : workspace.isVisible document = true) : workspace.showBeside document = .ok workspace := by
  simp only [isVisible] at sight
  simp only [showBeside, present, if_true, addVisible, sight]

/-- Where an open document cannot be written to, its file has not been made to open it. -/
theorem replaceAll_error_file? (opening : workspace.openDocument path = (opened, .ok id))
    (showing : opened.showBeside id = .ok shown)
    (refused : shown.replaceAll id text = (after, .error reason)) (place : Place) :
    after.disk.file? place = workspace.disk.file? place := by
  obtain ⟨_, rfl⟩ := showBeside_ok showing
  obtain ⟨closed, rfl, _⟩ | ⟨buffer, disk, refusal, found, failed, rfl, _⟩ :=
    replaceAll_refused refused
  · have present := openDocument_isOpen opening
    simp only [isOpen, buffer?] at present
    simp only [buffer?] at closed
    simp [closed] at present
  · have same := Disk.writeAtomic_error_file? failed place
    obtain ⟨_, ⟨rfl, _⟩ | ⟨_, first, held, rfl | made, rfl⟩⟩ := openDocument_ok opening
    · exact same
    · exact same
    · have here : buffer = ⟨path, workspace.languageOf path, held⟩ := by
        have own : ({ workspace with disk := first }.setBuffer id
            ⟨path, workspace.languageOf path, held⟩).buffer? id = _ := buffer?_setBuffer
        rw [if_pos rfl] at own
        exact Option.some.inj (found.symm.trans own)
      subst here
      -- The file was made for it just now, and can be written once more.
      obtain ⟨last, written⟩ := Disk.writeAtomic_over_ok made (.text text)
      cases failed.symm.trans written

end LiveSelector.Workspace
