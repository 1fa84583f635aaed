import LiveSelector.Proofs.Engine.Hosted
import LiveSelector.Proofs.Workspace.Opening

namespace LiveSelector.Engine

/-! Outputs that are opened and written to.  An output that has been opened is in sight, and one that
has been written holds the value in its buffer and in its file.  If it cannot be opened or written
to, every file is as before. -/

variable {Page : Type} {setup : Setup Page} {engine after : Engine Page} {document : Document}
variable {output : Output} {value : Json} {reason : WorkspaceError}

/-- An output is opened, and then shown unless it is in sight; to show it does no harm if it is. -/
theorem openOutput_ok (opening : engine.openOutput setup document = (after, .ok output)) :
    ∃ opened, engine.workspace.openDocument output.path = (opened, .ok output.id) ∧
      opened.showBeside output.id = .ok after.workspace := by
  have named := openOutput_output opening
  subst named
  simp only [openOutput] at opening
  rcases opened : engine.workspace.openDocument (document.outputPath setup.config.outputSuffix) with
    ⟨workspace, reason | id⟩
  · simp [opened] at opening
  · have here := Workspace.openDocument_id (by rw [opened])
    subst here
    refine ⟨workspace, rfl, ?_⟩
    rw [opened] at opening
    simp only at opening
    split at opening
    · rename_i sight
      cases opening
      exact Workspace.showBeside_visible (Workspace.openDocument_isOpen opened) sight
    · split at opening
      · cases opening
      · rename_i showing
        cases opening
        exact showing

theorem openOutput_shown (opening : engine.openOutput setup document = (after, .ok output)) :
    after.workspace.isOpen output.id = true ∧ after.workspace.isVisible output.id = true := by
  obtain ⟨opened, _, showing⟩ := openOutput_ok opening
  have sight := Workspace.isVisible_showBeside showing
  obtain ⟨present, same⟩ := Workspace.showBeside_ok showing
  rw [same] at sight ⊢
  exact ⟨present, sight⟩

theorem openOutput_document? {id : DocumentId} {held : Document}
    (opening : engine.openOutput setup document = (after, .ok output))
    (found : engine.workspace.document? id = some held) :
    after.workspace.document? id = some held := by
  obtain ⟨opened, began, showing⟩ := openOutput_ok opening
  have still := Workspace.openDocument_document? began found
  rw [(Workspace.showBeside_ok showing).2]
  exact still

theorem openOutput_error_file?
    (opening : engine.openOutput setup document = (after, .error reason)) (place : Place) :
    after.workspace.disk.file? place = engine.workspace.disk.file? place := by
  simp only [openOutput] at opening
  rcases opened : engine.workspace.openDocument (document.outputPath setup.config.outputSuffix) with
    ⟨workspace, refusal | id⟩
  · rw [opened] at opening
    cases opening
    exact Workspace.openDocument_error opened place
  · -- What has just been opened can be shown.
    have present := Workspace.openDocument_isOpen opened
    rw [opened] at opening
    simp only [Workspace.showBeside, present, if_true] at opening
    split at opening <;> cases opening

theorem writeOutput_workspace (wrote : engine.writeOutput output value = (after, .ok ())) :
    engine.workspace.replaceAll output.id value.render = (after.workspace, .ok ()) := by
  simp only [writeOutput] at wrote
  rcases replaced : engine.workspace.replaceAll output.id value.render with ⟨workspace, result⟩
  rw [replaced] at wrote
  cases wrote
  rfl

theorem writeOutput_holds (keyed : engine.workspace.Keyed)
    (named : output.id = output.path.documentId)
    (wrote : engine.writeOutput output value = (after, .ok ())) :
    after.workspace.text? output.id = some value.render ∧
      after.workspace.disk.readText output.path = .ok value.render := by
  obtain ⟨buffer, disk, found, written, same⟩ :=
    Workspace.replaceAll_written (writeOutput_workspace wrote)
  rw [named] at found
  rw [keyed.path_eq found] at written
  rw [same]
  exact ⟨by simp, Disk.writeAtomic_ok_readText written⟩

theorem deliver_error {failure : EngineError}
    (delivered : engine.deliver setup document value = (after, .error failure)) :
    (∃ reason, failure = .workspace reason) ∧
      ∀ place, after.workspace.disk.file? place = engine.workspace.disk.file? place := by
  simp only [deliver] at delivered
  rcases opening : engine.openOutput setup document with ⟨opened, reason | output⟩
  · rw [opening] at delivered
    cases delivered
    exact ⟨⟨reason, rfl⟩, openOutput_error_file? opening⟩
  · rw [opening] at delivered
    simp only [writeOutput] at delivered
    rcases writing : opened.workspace.replaceAll output.id value.render with ⟨disk, reason | done⟩
    · rw [writing] at delivered
      cases delivered
      obtain ⟨first, began, showing⟩ := openOutput_ok opening
      exact ⟨⟨reason, rfl⟩, Workspace.replaceAll_error_file? began showing writing⟩
    · rw [writing] at delivered
      cases delivered

theorem deliver_ok (delivered : engine.deliver setup document value = (after, .ok output)) :
    ∃ opened, engine.openOutput setup document = (opened, .ok output) ∧
      opened.writeOutput output value = (after, .ok ()) := by
  simp only [deliver] at delivered
  rcases opening : engine.openOutput setup document with ⟨opened, reason | shown⟩
  · simp [opening] at delivered
  · rw [opening] at delivered
    simp only at delivered
    rcases wrote : opened.writeOutput shown value with ⟨written, reason | done⟩
    · simp [wrote] at delivered
    · rw [wrote] at delivered
      cases delivered
      exact ⟨opened, rfl, wrote⟩

theorem deliver_holds (keyed : engine.workspace.Keyed)
    (delivered : engine.deliver setup document value = (after, .ok output)) :
    after.workspace.text? output.id = some value.render ∧
      after.workspace.disk.readText output.path = .ok value.render ∧
      after.workspace.isVisible output.id = true := by
  obtain ⟨opened, opening, wrote⟩ := deliver_ok delivered
  have named : output.id = output.path.documentId := by rw [openOutput_output opening]
  have keyedOpened : opened.workspace.Keyed := by
    have tends := openOutput_tends setup engine document rfl
    rw [opening] at tends
    exact tends.keyed keyed
  obtain ⟨text, file⟩ := writeOutput_holds keyedOpened named wrote
  have same := Workspace.replaceAll_isVisible opened.workspace output.id output.id value.render
  rw [writeOutput_workspace wrote, (openOutput_shown opening).2] at same
  exact ⟨text, file, same⟩

end LiveSelector.Engine
