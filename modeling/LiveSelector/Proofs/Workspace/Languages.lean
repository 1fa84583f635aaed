import LiveSelector.Proofs.Workspace.Confined

namespace LiveSelector

/-! The languages of documents.  A workspace says by the extension of a path which language its file
is in, and a document is in the language that its path had when it was opened.  Only another
workspace in its place, or another rule, changes what a workspace says. -/

/-- Whether an action leaves alone which language the files of an extension are in. -/
def HostAction.keepsRules : HostAction → Bool
  | .fresh | .register _ => false
  | _ => true

namespace Workspace

variable {workspace before after : Workspace} {artifact : Option DocumentId} {document id : DocumentId}
variable {path : FilePath} {known : FilePath → String → Prop}

theorem openPath_languages (opened : workspace.openPath path = .ok (after, id)) :
    after.languages = workspace.languages := by
  simp only [openPath] at opened
  split at opened
  · cases opened
    rfl
  · split at opened
    · contradiction
    · cases opened
      rfl

theorem openDocument_languages (path : FilePath) :
    (workspace.openDocument path).1.languages = workspace.languages := by
  obtain same | ⟨disk, _, same | ⟨id, opened⟩⟩ := openDocument_cases workspace path
  · rw [same]
  · rw [same]
  · have same := openPath_languages opened
    exact same

theorem host_languages {action : HostAction} (kept : action.keepsRules = true) :
    (workspace.host action).languages = workspace.languages := by
  cases action with
  | fresh => contradiction
  | register rule => contradiction
  | disk disk => rfl
  | openDocument path => exact openDocument_languages path
  | openPath path =>
      simp only [host]
      split
      · rename_i opened
        exact openPath_languages opened
      · rfl
  | setActive document =>
      simp only [host, setActive]
      split
      · rename_i activated
        split at activated <;> cases activated
        rfl
      · rfl
  | hide document => rfl
  | showBeside document =>
      simp only [host, showBeside]
      split
      · rename_i shown
        split at shown <;> cases shown
        rfl
      · rfl
  | edit document text =>
      simp only [host, edit]
      split
      · rename_i edited
        split at edited <;> cases edited
        rfl
      · rfl
  | save document =>
      simp only [host, save]
      split
      · rfl
      · split <;> rfl
  | replaceAll document text =>
      simp only [host, replaceAll]
      split
      · rfl
      · split <;> rfl
  | close document =>
      simp only [host, close]
      split <;> rfl

theorem Tends.languages (tends : Tends artifact before after) :
    after.languages = before.languages := by
  induction tends with
  | refl => rfl
  | action action _ _ concerned ih =>
      have kept : action.keepsRules = true := by
        cases action with
        | fresh => contradiction
        | register rule => contradiction
        | _ => rfl
      exact (host_languages kept).trans ih

theorem languageOf_congr (same : after.languages = before.languages) (path : FilePath) :
    after.languageOf path = before.languageOf path := by
  simp only [languageOf, same]

/-- Open documents are in languages that are known for their paths. -/
def Labelled (known : FilePath → String → Prop) (workspace : Workspace) : Prop :=
  ∀ document buffer, workspace.buffer? document = some buffer →
    known buffer.path buffer.languageId

theorem Labelled.language (labelled : Labelled known workspace) (keyed : workspace.Keyed)
    {found : Document} (there : workspace.document? id = some found) :
    known (.ofText id.text) found.languageId := by
  obtain ⟨buffer, opened, same⟩ := document?_buffer there
  rw [same, ← keyed.path_of_id opened]
  exact labelled id buffer opened

theorem labelled_onDisk (disk : Disk) (languages : List LanguageRule) :
    Labelled known { onDisk disk with languages } := by
  intro document buffer found
  simp [onDisk, buffer?] at found

theorem labelled_host (labelled : Labelled known workspace)
    (current : ∀ path, known path (workspace.languageOf path)) (action : HostAction) :
    Labelled known (workspace.host action) :=
  buffers_host (fun _ path language => known path language) labelled
    (fun _ path _ _ => current path) action

theorem Tends.labelled (tends : Tends artifact before after) (labelled : Labelled known before)
    (current : ∀ path, known path (before.languageOf path)) : Labelled known after := by
  induction tends with
  | refl => exact labelled
  | action action earlier _ _ ih =>
      apply labelled_host ih
      intro path
      rw [languageOf_congr earlier.languages]
      exact current path

end Workspace

end LiveSelector
