import LiveSelector.Proofs.Disk.Writing
import LiveSelector.Proofs.Workspace.Keyed

namespace LiveSelector

/-! Work on one document: it is opened, shown beside the others, and its text is replaced.  Such work
changes no file and no buffer but that document's, closes and hides nothing, and leaves the focus
where it is. -/

/-- Whether an action opens a document, shows it or replaces its text. -/
def HostAction.concerns (action : HostAction) (document : DocumentId) : Bool :=
  match action with
  | .openDocument path => path.documentId = document
  | .showBeside other => other = document
  | .replaceAll other _ => other = document
  | _ => false

namespace Workspace

variable {workspace before middle after : Workspace} {artifact : Option DocumentId}
variable {document other : DocumentId} {path : FilePath} {action : HostAction}

/-- What work on an artifact makes of a workspace, if there is an artifact to work on. -/
inductive Tends (artifact : Option DocumentId) : Workspace → Workspace → Prop where
  | refl (workspace : Workspace) : Tends artifact workspace workspace
  | action {before current : Workspace} {document : DocumentId} (action : HostAction)
      (earlier : Tends artifact before current) (known : artifact = some document)
      (concerned : action.concerns document = true) : Tends artifact before (current.host action)

namespace Tends

theorem of_action (action : HostAction) (known : artifact = some document)
    (concerned : action.concerns document = true) :
    Tends artifact workspace (workspace.host action) :=
  .action action (.refl workspace) known concerned

theorem trans (first : Tends artifact before middle) (second : Tends artifact middle after) :
    Tends artifact before after := by
  induction second with
  | refl => exact first
  | action action _ known concerned ih => exact .action action ih known concerned

theorem mono {other : Option DocumentId} (tends : Tends artifact before after)
    (known : ∀ document, artifact = some document → other = some document) :
    Tends other before after := by
  induction tends with
  | refl => exact .refl _
  | action action _ here concerned ih => exact ih.action action (known _ here) concerned

theorem eq_of_none (tends : Tends none before after) : after = before := by
  cases tends with
  | refl => rfl
  | action action earlier known concerned => cases known

end Tends

/-- What work on an artifact leaves alone. -/
structure Confined (artifact : Option DocumentId) (before after : Workspace) : Prop where
  sameRoot : after.disk.workingDirectory = before.disk.workingDirectory
  /-- Files keep what they hold, but for the file of the artifact. -/
  files : ∀ place, (∀ document, artifact = some document →
      before.disk.placeOf (.ofText document.text) ≠ place) →
    after.disk.file? place = before.disk.file? place
  buffers : ∀ other, artifact ≠ some other → after.buffer? other = before.buffer? other
  /-- Nothing is closed. -/
  stillOpen : ∀ other, before.isOpen other = true → after.isOpen other = true
  /-- Nothing is hidden or moved. -/
  stillShown : before.visible <+: after.visible
  shown : ∀ other, other ∈ after.visible → other ∈ before.visible ∨ artifact = some other
  sameFocus : after.active = before.active

namespace Confined

theorem refl (workspace : Workspace) : Confined artifact workspace workspace where
  sameRoot := rfl
  files := fun _ _ => rfl
  buffers := fun _ _ => rfl
  stillOpen := fun _ opened => opened
  stillShown := List.prefix_refl _
  shown := fun _ visible => .inl visible
  sameFocus := rfl

theorem trans (first : Confined artifact before middle) (second : Confined artifact middle after) :
    Confined artifact before after where
  sameRoot := second.sameRoot.trans first.sameRoot
  files := by
    intro place other
    have others : ∀ document, artifact = some document →
        middle.disk.placeOf (.ofText document.text) ≠ place := by
      intro document known
      rw [Disk.placeOf_congr first.sameRoot]
      exact other document known
    exact (second.files place others).trans (first.files place other)
  buffers := fun other different => (second.buffers other different).trans (first.buffers other different)
  stillOpen := fun other opened => second.stillOpen other (first.stillOpen other opened)
  stillShown := first.stillShown.trans second.stillShown
  shown := by
    intro other visible
    rcases second.shown other visible with earlier | known
    · exact first.shown other earlier
    · exact .inr known
  sameFocus := second.sameFocus.trans first.sameFocus

end Confined

theorem confined_writeAtomic (workspace : Workspace) (content : Content)
    (named : path.documentId = document) :
    Confined (some document) workspace
      { workspace with disk := (workspace.disk.writeAtomic path content).1 } where
  sameRoot := Disk.writeAtomic_workingDirectory ..
  files := by
    intro place other
    apply Disk.writeAtomic_file?_of_ne
    have home := other document rfl
    rw [← named, FilePath.ofText_documentId] at home
    exact home
  buffers := fun _ _ => rfl
  stillOpen := fun _ opened => opened
  stillShown := List.prefix_refl _
  shown := fun _ visible => .inl visible
  sameFocus := rfl

theorem confined_setBuffer (document : DocumentId) (buffer : Buffer) :
    Confined (some document) workspace (workspace.setBuffer document buffer) where
  sameRoot := rfl
  files := fun _ _ => rfl
  buffers := by
    intro other different
    rw [buffer?_setBuffer, if_neg]
    rintro rfl
    exact different rfl
  stillOpen := by
    intro other opened
    simp only [isOpen, buffer?_setBuffer] at opened ⊢
    split
    · rfl
    · exact opened
  stillShown := List.prefix_refl _
  shown := fun _ visible => .inl visible
  sameFocus := rfl

theorem confined_openPath (opened : workspace.openPath path = .ok (after, document)) :
    Confined (some path.documentId) workspace after := by
  simp only [openPath] at opened
  split at opened
  · cases opened
    exact .refl workspace
  · split at opened
    · contradiction
    · cases opened
      exact confined_setBuffer path.documentId _

theorem confined_openDocument (path : FilePath) :
    Confined (some path.documentId) workspace (workspace.openDocument path).1 := by
  obtain same | ⟨disk, prepared, outcome⟩ := openDocument_cases workspace path
  · rw [same]
    exact .refl workspace
  · have made : Confined (some path.documentId) workspace { workspace with disk } := by
      rcases prepared with rfl | rfl
      · exact .refl workspace
      · exact confined_writeAtomic _ _ rfl
    rcases outcome with same | ⟨id, opened⟩
    · rw [same]
      exact made
    · exact made.trans (confined_openPath opened)

theorem confined_showBeside (document : DocumentId) :
    Confined (some document) workspace (workspace.host (.showBeside document)) := by
  simp only [host, showBeside]
  split
  · rename_i revealed
    split at revealed
    · cases revealed
      refine { (Confined.refl workspace : Confined (some document) workspace workspace) with
        stillShown := ?_, shown := ?_ }
      · simp only [addVisible]
        split
        · exact List.prefix_refl _
        · exact List.prefix_append _ _
      · intro other visible
        simp only [addVisible] at visible
        split at visible
        · exact .inl visible
        · rcases List.mem_append.mp visible with earlier | last
          · exact .inl earlier
          · exact .inr (by rw [List.mem_singleton.mp last])
    · contradiction
  · exact .refl workspace

theorem confined_replaceAll (keyed : workspace.Keyed) (document : DocumentId) (text : String) :
    Confined (some document) workspace (workspace.replaceAll document text).1 := by
  simp only [replaceAll]
  split
  · exact .refl workspace
  · rename_i buffer found
    have named : buffer.path.documentId = document := (keyed document buffer found).symm
    have written := confined_writeAtomic workspace (.text text) named
    split
    · rename_i disk wrote
      rw [wrote] at written
      exact written.trans (confined_setBuffer document { buffer with text })
    · rename_i disk reason failed
      rw [failed] at written
      exact written

theorem confined_host (keyed : workspace.Keyed) (concerned : action.concerns document = true) :
    Confined (some document) workspace (workspace.host action) := by
  cases action with
  | openDocument path =>
      have named : path.documentId = document := of_decide_eq_true concerned
      rw [← named]
      exact confined_openDocument path
  | showBeside other =>
      have same : other = document := of_decide_eq_true concerned
      rw [← same]
      exact confined_showBeside other
  | replaceAll other text =>
      have same : other = document := of_decide_eq_true concerned
      rw [← same]
      exact confined_replaceAll keyed other text
  | _ => contradiction

namespace Tends

theorem keyed (tends : Tends artifact before after) (keyed : before.Keyed) : after.Keyed := by
  induction tends with
  | refl => exact keyed
  | action action _ _ _ ih => exact keyed_host ih action

theorem confined (tends : Tends artifact before after) (keyed : before.Keyed) :
    Confined artifact before after := by
  induction tends with
  | refl => exact .refl _
  | action action earlier known concerned ih =>
      subst known
      exact ih.trans (confined_host (earlier.keyed keyed) concerned)

end Tends

end Workspace

end LiveSelector
