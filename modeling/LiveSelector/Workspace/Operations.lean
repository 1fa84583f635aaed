import LiveSelector.Workspace.Basic

namespace LiveSelector.Workspace

/-!
What an editor does with its documents.  An operation that the editor announces answers with the
event.  A refused operation leaves the documents as they were.
-/

/-- A workspace with a file opened that is there; one that is open stays as it is. -/
def openPath (workspace : Workspace) (path : FilePath) :
    Except WorkspaceError (Workspace × DocumentId) :=
  if workspace.isOpen path.documentId then .ok (workspace, path.documentId)
  else
    match workspace.disk.readText path with
    | .error reason => .error (.cannotOpen path reason)
    | .ok text =>
      .ok (workspace.setBuffer path.documentId ⟨path, workspace.languageOf path, text⟩,
        path.documentId)

/-- A workspace with a file opened, an empty one made if there is none. -/
def openDocument (workspace : Workspace) (path : FilePath) :
    Workspace × Except WorkspaceError DocumentId :=
  if workspace.isOpen path.documentId then (workspace, .ok path.documentId)
  else
    let (disk, made) :=
      if workspace.disk.hasNode path then (workspace.disk, .ok ())
      else workspace.disk.writeAtomic path (.text "")
    let prepared := { workspace with disk }
    match made with
    | .error reason => (prepared, .error (.cannotOpen path reason))
    | .ok () =>
      match prepared.openPath path with
      | .error reason => (prepared, .error reason)
      | .ok (opened, document) => (opened, .ok document)

/-- A workspace with the focus on a document, which becomes visible. -/
def setActive (workspace : Workspace) (document : DocumentId) :
    Except WorkspaceError (Workspace × EditorEvent) :=
  if workspace.isOpen document then
    .ok ({ workspace with
            visible := addVisible workspace.visible document
            active := some document },
      .activeChanged (some document))
  else .error (.notOpen document)

/-- A workspace in which a document is not visible and has not the focus. -/
def withoutFocus (workspace : Workspace) (document : DocumentId) : Workspace :=
  { workspace with
    visible := workspace.visible.filter (· ≠ document)
    active := if workspace.active = some document then none else workspace.active }

/-- A workspace with a document out of sight, but open. -/
def hide (workspace : Workspace) (document : DocumentId) : Workspace × EditorEvent :=
  (workspace.withoutFocus document, .visibleChanged)

/-- A workspace with a document visible beside the others. -/
def showBeside (workspace : Workspace) (document : DocumentId) : Except WorkspaceError Workspace :=
  if workspace.isOpen document then
    .ok { workspace with visible := addVisible workspace.visible document }
  else .error (.notOpen document)

/-- A workspace with a document's text replaced as by typing, the file left alone. -/
def edit (workspace : Workspace) (document : DocumentId) (text : String) :
    Except WorkspaceError (Workspace × EditorEvent) :=
  match workspace.buffer? document with
  | none => .error (.notOpen document)
  | some buffer =>
    .ok (workspace.setBuffer document { buffer with text },
      .changed document [.between buffer.text text])

/-- A workspace with a document's text written to its file. -/
def save (workspace : Workspace) (document : DocumentId) : Workspace × Except WorkspaceError Unit :=
  match workspace.buffer? document with
  | none => (workspace, .error (.notOpen document))
  | some buffer =>
    match workspace.disk.writeAtomic buffer.path (.text buffer.text) with
    | (disk, .ok ()) => ({ workspace with disk }, .ok ())
    | (disk, .error reason) => ({ workspace with disk }, .error (.cannotWrite buffer.path reason))

/-- A workspace with a document's text replaced, in its file first. -/
def replaceAll (workspace : Workspace) (document : DocumentId) (text : String) :
    Workspace × Except WorkspaceError Unit :=
  match workspace.buffer? document with
  | none => (workspace, .error (.notOpen document))
  | some buffer =>
    match workspace.disk.writeAtomic buffer.path (.text text) with
    | (disk, .ok ()) => ({ workspace with disk }.setBuffer document { buffer with text }, .ok ())
    | (disk, .error reason) => ({ workspace with disk }, .error (.cannotWrite buffer.path reason))

/-- A workspace with a document closed; nothing is announced if it was not open. -/
def close (workspace : Workspace) (document : DocumentId) : Workspace × Option EditorEvent :=
  if workspace.isOpen document then
    ({ workspace with buffers := workspace.buffers.erase document.text }.withoutFocus document,
      some (.closed document))
  else (workspace, none)

end LiveSelector.Workspace
