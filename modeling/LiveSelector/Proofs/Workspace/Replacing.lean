import LiveSelector.Proofs.Disk.Rewriting
import LiveSelector.Workspace.Operations

namespace LiveSelector

/-! Replacing the text of an open document.  It succeeds in the file and in the buffer or in neither,
and doing it a second time changes nothing more, whether the first time succeeded or failed. -/

/-- How the refusal of a replacement may read when it is repeated. -/
def WorkspaceError.Recurs (first again : WorkspaceError) : Prop :=
  again = first ∨
    ∃ path, first = .cannotWrite path .alreadyExists ∧ again = .cannotWrite path .notDirectory

namespace Workspace

variable {workspace after : Workspace} {document other : DocumentId} {text : String}
variable {reason : WorkspaceError}

theorem replaceAll_written (replaced : workspace.replaceAll document text = (after, .ok ())) :
    ∃ buffer disk, workspace.buffer? document = some buffer ∧
      workspace.disk.writeAtomic buffer.path (.text text) = (disk, .ok ()) ∧
      after = { workspace with disk }.setBuffer document { buffer with text } := by
  simp only [replaceAll] at replaced
  split at replaced
  · cases replaced
  · rename_i buffer found
    split at replaced
    · rename_i disk written
      cases replaced
      exact ⟨buffer, disk, found, written, rfl⟩
    · cases replaced

theorem replaceAll_refused (failed : workspace.replaceAll document text = (after, .error reason)) :
    (workspace.buffer? document = none ∧ after = workspace ∧ reason = .notOpen document) ∨
      ∃ buffer disk refusal, workspace.buffer? document = some buffer ∧
        workspace.disk.writeAtomic buffer.path (.text text) = (disk, .error refusal) ∧
        after = { workspace with disk } ∧ reason = .cannotWrite buffer.path refusal := by
  simp only [replaceAll] at failed
  split at failed
  · rename_i closed
    cases failed
    exact .inl ⟨closed, rfl, rfl⟩
  · rename_i buffer found
    split at failed
    · cases failed
    · rename_i disk refusal refused
      cases failed
      exact .inr ⟨buffer, disk, refusal, found, refused, rfl, rfl⟩

theorem replaceAll_failed (failed : workspace.replaceAll document text = (after, .error reason)) :
    after.buffers = workspace.buffers ∧
      ∀ path, after.disk.fileAt path = workspace.disk.fileAt path := by
  obtain ⟨_, rfl, _⟩ | ⟨buffer, disk, refusal, _, refused, rfl, _⟩ := replaceAll_refused failed
  · exact ⟨rfl, fun path => rfl⟩
  · exact ⟨rfl, Disk.writeAtomic_error_fileAt refused⟩

theorem replaceAll_buffer? (different : other ≠ document) :
    (workspace.replaceAll document text).1.buffer? other = workspace.buffer? other := by
  rcases replaced : workspace.replaceAll document text with ⟨after, reason | done⟩
  · have same := (replaceAll_failed replaced).1
    simp only [buffer?, same]
  · obtain ⟨buffer, disk, found, _, rfl⟩ := replaceAll_written replaced
    simp only [buffer?_setBuffer, if_neg (Ne.symm different)]
    rfl

theorem replaceAll_isOpen :
    (workspace.replaceAll document text).1.isOpen other = workspace.isOpen other := by
  by_cases same : other = document
  · subst same
    rcases replaced : workspace.replaceAll other text with ⟨after, reason | done⟩
    · have same := (replaceAll_failed replaced).1
      simp only [isOpen, buffer?, same]
    · obtain ⟨buffer, disk, found, _, rfl⟩ := replaceAll_written replaced
      simp only [isOpen, buffer?_setBuffer, if_true, found, Option.isSome_some]
  · simp only [isOpen, replaceAll_buffer? same]

theorem replaceAll_isVisible (workspace : Workspace) (document other : DocumentId) (text : String) :
    (workspace.replaceAll document text).1.isVisible other = workspace.isVisible other := by
  rcases replaced : workspace.replaceAll document text with ⟨after, reason | done⟩
  · obtain ⟨_, rfl, _⟩ | ⟨buffer, disk, refusal, _, _, rfl, _⟩ := replaceAll_refused replaced
    · rfl
    · rfl
  · obtain ⟨buffer, disk, _, _, rfl⟩ := replaceAll_written replaced
    rfl

theorem setBuffer_again {buffer : Buffer} (found : workspace.buffer? document = some buffer) :
    workspace.setBuffer document buffer = workspace := by
  have same : workspace.buffers.insert document.text buffer = workspace.buffers := by
    refine Table.ext_get? fun key => ?_
    rw [Table.get?_insert]
    split
    · rename_i here
      rw [← here]
      exact found.symm
    · rfl
  simp only [setBuffer, same]

theorem replaceAll_again_ok (replaced : workspace.replaceAll document text = (after, .ok ())) :
    after.replaceAll document text = (after, .ok ()) := by
  obtain ⟨buffer, disk, found, written, same⟩ := replaceAll_written replaced
  have here : after.buffer? document = some { buffer with text } := by
    rw [same, buffer?_setBuffer, if_pos rfl]
  have root : after.disk = disk := by
    rw [same]
    rfl
  have again : disk.writeAtomic buffer.path (.text text) = (disk, .ok ()) :=
    Disk.writeAtomic_again_ok written
  simp only [replaceAll, here, root, again, Prod.mk.injEq, and_true]
  rw [← root]
  exact setBuffer_again here

theorem replaceAll_again_error
    (failed : workspace.replaceAll document text = (after, .error reason)) :
    ∃ again, after.replaceAll document text = (after, .error again) ∧ reason.Recurs again := by
  obtain ⟨closed, rfl, rfl⟩ | ⟨buffer, disk, refusal, found, refused, rfl, rfl⟩ :=
    replaceAll_refused failed
  · exact ⟨_, failed, .inl rfl⟩
  · obtain ⟨again, blocked, recurs⟩ := Disk.writeAtomic_again_error refused
    have here : ({ workspace with disk } : Workspace).buffer? document = some buffer := found
    refine ⟨.cannotWrite buffer.path again, by simp only [replaceAll, here, blocked], ?_⟩
    rcases recurs with rfl | ⟨rfl, rfl⟩
    · exact .inl rfl
    · exact .inr ⟨buffer.path, rfl, rfl⟩

end Workspace

end LiveSelector
