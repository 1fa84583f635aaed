import LiveSelector.Proofs.Disk.Reading
import LiveSelector.Workspace.Host

namespace LiveSelector

/-! Where open documents come from.  A buffer begins as a file that has been read, under the path of
that file and in the language that the workspace has for it, and until it is closed nothing but its
text changes.  So an open document goes by the path of its file, and that path ends in a name. -/

theorem FilePath.documentId_inj {first second : FilePath} :
    first.documentId = second.documentId ↔ first = second := by
  simp only [FilePath.documentId, DocumentId.mk.injEq, FilePath.text_inj]

theorem FilePath.ofText_documentId (path : FilePath) : ofText path.documentId.text = path :=
  FilePath.ofText_text path

namespace Workspace

variable {workspace after : Workspace} {document other id : DocumentId} {path : FilePath}
variable {buffer held : Buffer}

/-- What a buffer was before: the buffer of its document with perhaps another text, or a file. -/
inductive Source (workspace : Workspace) (document : DocumentId) (buffer : Buffer) : Prop where
  | kept (old : Buffer) (found : workspace.buffer? document = some old)
      (path : buffer.path = old.path) (language : buffer.languageId = old.languageId)
  | read (disk : Disk) (named : document = buffer.path.documentId)
      (language : buffer.languageId = workspace.languageOf buffer.path)
      (read : disk.readText buffer.path = .ok buffer.text)

theorem Source.of_buffers (same : after.buffers = workspace.buffers)
    (found : after.buffer? document = some buffer) : workspace.Source document buffer := by
  rw [buffer?, same] at found
  exact .kept buffer found rfl rfl

/-- It does not matter what the disk holds by now. -/
theorem Source.of_disk {disk : Disk}
    (source : Source { workspace with disk } document buffer) :
    workspace.Source document buffer := by
  cases source with
  | kept old before path language => exact .kept old before path language
  | read disk named language read => exact .read disk named language read

theorem source_setBuffer (source : workspace.Source document buffer)
    (found : (workspace.setBuffer document buffer).buffer? other = some held) :
    workspace.Source other held := by
  rw [buffer?_setBuffer] at found
  split at found
  · rename_i same
    cases found
    rw [← same]
    exact source
  · exact .kept held found rfl rfl

theorem source_openPath (opened : workspace.openPath path = .ok (after, id))
    (found : after.buffer? document = some buffer) : workspace.Source document buffer := by
  simp only [openPath] at opened
  split at opened
  · cases opened
    exact .of_buffers rfl found
  · split at opened
    · contradiction
    · rename_i text read
      cases opened
      have source : workspace.Source path.documentId ⟨path, workspace.languageOf path, text⟩ :=
        .read workspace.disk rfl rfl read
      exact source_setBuffer source found

theorem openPath_id (opened : workspace.openPath path = .ok (after, id)) : id = path.documentId := by
  simp only [openPath] at opened
  split at opened
  · cases opened
    rfl
  · split at opened <;> cases opened
    rfl

theorem openDocument_id (opened : (workspace.openDocument path).2 = .ok id) :
    id = path.documentId := by
  unfold openDocument at opened
  split at opened
  · cases opened
    rfl
  · simp only at opened
    split at opened
    · contradiction
    · split at opened
      · contradiction
      · rename_i found
        cases opened
        exact openPath_id found

/-- Opening a document changes the disk at most as a write to its file does, and then the workspace
as the opening of a file does, if that succeeds. -/
theorem openDocument_cases (workspace : Workspace) (path : FilePath) :
    (workspace.openDocument path).1 = workspace ∨
      ∃ disk, (disk = workspace.disk ∨ disk = (workspace.disk.writeAtomic path (.text "")).1) ∧
        ((workspace.openDocument path).1 = { workspace with disk } ∨
          ∃ id, ({ workspace with disk } : Workspace).openPath path =
            .ok ((workspace.openDocument path).1, id)) := by
  unfold openDocument
  split
  · exact .inl rfl
  · refine .inr ⟨(if workspace.disk.hasNode path then (workspace.disk, .ok ())
      else workspace.disk.writeAtomic path (.text "")).1, ?_, ?_⟩
    · split
      · exact .inl rfl
      · exact .inr rfl
    · simp only
      split
      · exact .inl rfl
      · split
        · exact .inl rfl
        · rename_i opened
          exact .inr ⟨_, opened⟩

theorem source_openDocument (found : (workspace.openDocument path).1.buffer? document = some buffer) :
    workspace.Source document buffer := by
  obtain same | ⟨disk, _, same | ⟨id, opened⟩⟩ := openDocument_cases workspace path
  · exact .of_buffers (by rw [same]) found
  · exact .of_buffers (by rw [same]) found
  · exact (source_openPath opened found).of_disk

/-- Every action of the host leaves buffers that were there before or have been read. -/
theorem source_host (action : HostAction)
    (found : (workspace.host action).buffer? document = some buffer) :
    workspace.Source document buffer := by
  cases action with
  | fresh => simp [host, onDisk, buffer?] at found
  | register rule => exact .of_buffers rfl found
  | disk disk => exact .of_buffers rfl found
  | openPath path =>
      simp only [host] at found
      split at found
      · rename_i opened
        exact source_openPath opened found
      · exact .of_buffers rfl found
  | openDocument path => exact source_openDocument found
  | setActive other =>
      simp only [host, setActive] at found
      split at found
      · rename_i activated
        split at activated <;> cases activated
        exact .of_buffers rfl found
      · exact .of_buffers rfl found
  | hide other => exact .of_buffers rfl found
  | showBeside other =>
      simp only [host, showBeside] at found
      split at found
      · rename_i shown
        split at shown <;> cases shown
        exact .of_buffers rfl found
      · exact .of_buffers rfl found
  | edit other text =>
      simp only [host, edit] at found
      split at found
      · rename_i edited
        split at edited
        · contradiction
        · rename_i old there
          cases edited
          have source : workspace.Source other { old with text } := .kept old there rfl rfl
          exact source_setBuffer source found
      · exact .of_buffers rfl found
  | save other =>
      simp only [host, save] at found
      split at found
      · exact .of_buffers rfl found
      · split at found <;> exact .of_buffers rfl found
  | replaceAll other text =>
      simp only [host, replaceAll] at found
      split at found
      · exact .of_buffers rfl found
      · rename_i old there
        split at found
        · rename_i disk written
          have source : Source { workspace with disk } other { old with text } :=
            .kept old there rfl rfl
          exact (source_setBuffer source found).of_disk
        · exact .of_buffers rfl found
  | close other =>
      simp only [host, close] at found
      split at found
      · simp only [buffer?, withoutFocus, Table.get?_erase] at found
        split at found
        · contradiction
        · exact .kept buffer found rfl rfl
      · exact .of_buffers rfl found

/-- What holds of files that are read and of the open documents holds of the open documents after an
action of the host. -/
theorem buffers_host (holds : DocumentId → FilePath → String → Prop)
    (opened : ∀ document buffer, workspace.buffer? document = some buffer →
      holds document buffer.path buffer.languageId)
    (reading : ∀ disk path text, Disk.readText disk path = .ok text →
      holds path.documentId path (workspace.languageOf path))
    (action : HostAction) : ∀ document buffer,
      (workspace.host action).buffer? document = some buffer →
        holds document buffer.path buffer.languageId := by
  intro document buffer found
  cases source_host action found with
  | kept old before path language =>
      rw [path, language]
      exact opened document old before
  | read disk named language read =>
      rw [named, language]
      exact reading disk buffer.path buffer.text read

/-- What every action of the host preserves holds after any number of them. -/
theorem hostAll_induction {holds : Workspace → Prop} (initially : holds workspace)
    (preserved : ∀ workspace action, holds workspace → holds (workspace.host action))
    (actions : List HostAction) : holds (workspace.hostAll actions) := by
  induction actions generalizing workspace with
  | nil => exact initially
  | cons action rest ih => exact ih (preserved workspace action initially)

/-- An open document goes by the path of its file. -/
def Keyed (workspace : Workspace) : Prop :=
  ∀ document buffer, workspace.buffer? document = some buffer →
    document = buffer.path.documentId

theorem keyed_onDisk (disk : Disk) : Keyed (onDisk disk) := by
  intro document buffer found
  simp [onDisk, buffer?] at found

theorem keyed_host (keyed : Keyed workspace) (action : HostAction) :
    Keyed (workspace.host action) :=
  buffers_host (fun document path _ => document = path.documentId) keyed (fun _ _ _ _ => rfl) action

theorem keyed_hostAll (keyed : Keyed workspace) (actions : List HostAction) :
    Keyed (workspace.hostAll actions) :=
  hostAll_induction keyed (fun _ action keyed => keyed_host keyed action) actions

theorem Keyed.path_eq (keyed : Keyed workspace)
    (found : workspace.buffer? path.documentId = some buffer) : buffer.path = path :=
  FilePath.documentId_inj.mp (keyed _ buffer found).symm

theorem Keyed.path_of_id (keyed : Keyed workspace)
    (found : workspace.buffer? document = some buffer) :
    buffer.path = .ofText document.text := by
  rw [keyed document buffer found, FilePath.ofText_documentId]

/-- The files of open documents have names. -/
def Filed (workspace : Workspace) : Prop :=
  ∀ document buffer, workspace.buffer? document = some buffer → buffer.path.NamesFile

theorem filed_onDisk (disk : Disk) : Filed (onDisk disk) := by
  intro document buffer found
  simp [onDisk, buffer?] at found

theorem filed_host (filed : Filed workspace) (action : HostAction) :
    Filed (workspace.host action) :=
  buffers_host (fun _ path _ => path.NamesFile) filed
    (fun _ _ _ read => Disk.readText_namesFile read) action

theorem filed_hostAll (filed : Filed workspace) (actions : List HostAction) :
    Filed (workspace.hostAll actions) :=
  hostAll_induction filed (fun _ action filed => filed_host filed action) actions

theorem document?_buffer {found : Document} (there : workspace.document? id = some found) :
    ∃ buffer, workspace.buffer? id = some buffer ∧
      found = ⟨id, some buffer.path, buffer.languageId, buffer.text⟩ := by
  obtain ⟨buffer, opened, same⟩ := Option.map_eq_some_iff.mp there
  exact ⟨buffer, opened, same.symm⟩

theorem activeDocument?_open {found : Document} (focused : workspace.activeDocument? = some found) :
    workspace.document? found.id = some found := by
  obtain ⟨id, _, there⟩ := Option.bind_eq_some_iff.mp focused
  obtain ⟨buffer, _, same⟩ := document?_buffer there
  rw [same] at there ⊢
  exact there

end Workspace

end LiveSelector
