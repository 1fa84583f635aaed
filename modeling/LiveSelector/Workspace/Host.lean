import LiveSelector.Workspace.Operations

namespace LiveSelector

/-!
What a host may do to a workspace while no operation of the engine is under way.
-/

inductive HostAction where
  /-- Another workspace on the same disk, with nothing open. -/
  | fresh
  | register (rule : LanguageRule)
  /-- Whatever someone else has done to the disk. -/
  | disk (disk : Disk)
  | openPath (path : FilePath)
  | openDocument (path : FilePath)
  | setActive (document : DocumentId)
  | hide (document : DocumentId)
  | showBeside (document : DocumentId)
  | edit (document : DocumentId) (text : String)
  | save (document : DocumentId)
  | replaceAll (document : DocumentId) (text : String)
  | close (document : DocumentId)
  deriving DecidableEq

namespace Workspace

/-- A workspace after an action of the host; a refused action may leave new directories. -/
def host (workspace : Workspace) : HostAction → Workspace
  | .fresh => onDisk workspace.disk
  | .register rule => workspace.withLanguage rule.extension rule.languageId
  | .disk disk => { workspace with disk }
  | .openPath path =>
    match workspace.openPath path with
    | .ok (after, _) => after
    | .error _ => workspace
  | .openDocument path => (workspace.openDocument path).1
  | .setActive document =>
    match workspace.setActive document with
    | .ok (after, _) => after
    | .error _ => workspace
  | .hide document => (workspace.hide document).1
  | .showBeside document =>
    match workspace.showBeside document with
    | .ok after => after
    | .error _ => workspace
  | .edit document text =>
    match workspace.edit document text with
    | .ok (after, _) => after
    | .error _ => workspace
  | .save document => (workspace.save document).1
  | .replaceAll document text => (workspace.replaceAll document text).1
  | .close document => (workspace.close document).1

def hostAll (workspace : Workspace) (actions : List HostAction) : Workspace :=
  actions.foldl host workspace

end Workspace

end LiveSelector
