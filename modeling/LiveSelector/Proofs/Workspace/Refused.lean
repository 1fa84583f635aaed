import LiveSelector.Proofs.Workspace.Opening

namespace LiveSelector.Workspace

/-! Refused actions.  Whatever the reason is that an action of the host is refused for, the
documents are as they were, and so are all files.  On the disk there may be more directories, and
only above the path that the action was to write to. -/

open Disk (Makes homeDirectory)

variable {workspace after : Workspace} {document : DocumentId} {action : HostAction}
variable {reason : WorkspaceError}

def failure? {Reason Result : Type} : Except Reason Result → Option Reason
  | .error reason => some reason
  | .ok _ => none

theorem failure?_eq_some {Reason Result : Type} {reason : Reason} {result : Except Reason Result} :
    failure? result = some reason ↔ result = .error reason := by
  cases result with
  | error other => simp [failure?]
  | ok value => simp [failure?]

/-- Why an action of the host is refused, if it is. -/
def refusal? (workspace : Workspace) : HostAction → Option WorkspaceError
  | .openPath path => failure? (workspace.openPath path)
  | .openDocument path => failure? (workspace.openDocument path).2
  | .setActive document => failure? (workspace.setActive document)
  | .showBeside document => failure? (workspace.showBeside document)
  | .edit document text => failure? (workspace.edit document text)
  | .save document => failure? (workspace.save document).2
  | .replaceAll document text => failure? (workspace.replaceAll document text).2
  | .fresh | .register _ | .disk _ | .hide _ | .close _ => none

/-- The path that an action may write to. -/
def target? (workspace : Workspace) : HostAction → Option FilePath
  | .openDocument path => some path
  | .save document | .replaceAll document _ => (workspace.buffer? document).map (·.path)
  | _ => none

/-- Everything but the disk is kept, and the disk has at most directories more. -/
structure Spared (before after : Workspace) (target : Option FilePath) : Prop where
  documents : after = { before with disk := after.disk }
  made : after.disk = before.disk ∨
    ∃ path, target = some path ∧ Makes (homeDirectory path) before.disk after.disk

theorem Spared.refl (workspace : Workspace) (target : Option FilePath) :
    Spared workspace workspace target :=
  ⟨rfl, .inl rfl⟩

theorem Spared.of_makes {disk : Disk} {path : FilePath}
    (made : Makes (homeDirectory path) workspace.disk disk) :
    Spared workspace { workspace with disk } (some path) :=
  ⟨rfl, .inr ⟨path, rfl, made⟩⟩

theorem save_refused (failed : workspace.save document = (after, .error reason)) :
    Spared workspace after (workspace.target? (.save document)) := by
  simp only [save] at failed
  cases found : workspace.buffer? document with
  | none =>
      rw [found] at failed
      cases failed
      exact .refl workspace _
  | some buffer =>
      rw [found] at failed
      rcases writing : workspace.disk.writeAtomic buffer.path (.text buffer.text) with
        ⟨disk, refusal | done⟩
      · simp only [writing] at failed
        cases failed
        simp only [target?, found, Option.map_some]
        exact .of_makes (Disk.writeAtomic_error_makes writing)
      · simp only [writing] at failed
        cases failed

theorem replaceAll_spared {text : String}
    (failed : workspace.replaceAll document text = (after, .error reason)) :
    Spared workspace after (workspace.target? (.replaceAll document text)) := by
  obtain ⟨_, rfl, _⟩ | ⟨buffer, disk, _, found, refused, rfl, _⟩ := replaceAll_refused failed
  · exact .refl after _
  · simp only [target?, found, Option.map_some]
    exact .of_makes (Disk.writeAtomic_error_makes refused)

theorem host_spared (refused : workspace.refusal? action = some reason) :
    Spared workspace (workspace.host action) (workspace.target? action) := by
  cases action with
  | fresh | register | disk | hide | close => cases refused
  | openPath path =>
      simp only [host, failure?_eq_some.mp refused]
      exact .refl workspace _
  | openDocument path =>
      obtain ⟨disk, same, made⟩ :=
        openDocument_refused (Prod.ext rfl (failure?_eq_some.mp refused))
      simp only [host, same]
      exact .of_makes made
  | setActive document =>
      simp only [host, failure?_eq_some.mp refused]
      exact .refl workspace _
  | showBeside document =>
      simp only [host, failure?_eq_some.mp refused]
      exact .refl workspace _
  | edit document text =>
      simp only [host, failure?_eq_some.mp refused]
      exact .refl workspace _
  | save document => exact save_refused (Prod.ext rfl (failure?_eq_some.mp refused))
  | replaceAll document text => exact replaceAll_spared (Prod.ext rfl (failure?_eq_some.mp refused))

/-- A refused action changes no document, no file and no directory that was there.  A node that is
new is a directory above the path that was to be written to. -/
theorem host_refused (refused : workspace.refusal? action = some reason) :
    (workspace.host action).buffers = workspace.buffers ∧
      (workspace.host action).visible = workspace.visible ∧
      (workspace.host action).active = workspace.active ∧
      (workspace.host action).languages = workspace.languages ∧
      (∀ place, (workspace.host action).disk.file? place = workspace.disk.file? place) ∧
      (∀ place node, workspace.disk.node? place = some node →
        (workspace.host action).disk.node? place = some node) ∧
      ∀ place, workspace.disk.node? place = none →
        (workspace.host action).disk.node? place ≠ none →
        (workspace.host action).disk.node? place = some .directory ∧
          ∃ path directory, workspace.target? action = some path ∧
            (homeDirectory path).Above directory ∧
            place = workspace.disk.placeOf directory := by
  obtain ⟨documents, same | ⟨path, target, made⟩⟩ := host_spared refused
  · rw [documents, same]
    exact ⟨rfl, rfl, rfl, rfl, fun _ => rfl, fun _ _ found => found,
      fun _ absent present => absurd absent present⟩
  · rw [documents]
    refine ⟨rfl, rfl, rfl, rfl, made.grows.file?, made.grows.kept, ?_⟩
    intro place absent present
    obtain ⟨directory, outer, above, here⟩ := made.added absent present
    exact ⟨directory, path, outer, target, above, here⟩

/-- A file stands where a directory is needed, which is found out when another one has been made. -/
theorem opening_below_file_refused :
    let disk : Disk := ⟨[], [([['b']], .file (.text "x"))]⟩
    let workspace := (onDisk disk).hostAll [.openPath (.ofText "b"), .setActive ⟨"b"⟩]
    let action : HostAction := .openDocument (.ofText "a/../b/s.json")
    workspace.refusal? action =
        some (.cannotOpen (.ofText "a/../b/s.json") .alreadyExists) ∧
      (workspace.host action).buffers = workspace.buffers ∧
      (workspace.host action).visible = [⟨"b"⟩] ∧
      (workspace.host action).active = some ⟨"b"⟩ ∧
      (workspace.host action).disk.file? [['b']] = some (.text "x") ∧
      (workspace.host action).disk.node? [['a']] = some .directory ∧
      ∃ path directory, workspace.target? action = some path ∧
        (homeDirectory path).Above directory ∧ [['a']] = workspace.disk.placeOf directory := by
  intro disk workspace action
  have refused : workspace.refusal? action =
      some (.cannotOpen (.ofText "a/../b/s.json") .alreadyExists) := by decide +kernel
  have made : (workspace.host action).disk.node? [['a']] = some .directory := by decide +kernel
  obtain ⟨buffers, visible, active, _, files, _, added⟩ := host_refused refused
  refine ⟨refused, buffers, visible.trans (by decide +kernel), active.trans (by decide +kernel),
    (files _).trans (by decide +kernel), made, ?_⟩
  exact (added [['a']] (by decide +kernel) (by simp [made])).2

end LiveSelector.Workspace
