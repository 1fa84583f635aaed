import LiveSelector.Data.Table
import LiveSelector.Disk.Files
import LiveSelector.Event.Basic

namespace LiveSelector

/-!
The workspace: the documents that are open, which of them are visible and which has the focus, and
the disk that their files are on.  A document is known by its path as written.
-/

inductive WorkspaceError where
  | notOpen (document : DocumentId)
  | cannotOpen (path : FilePath) (reason : DiskError)
  | cannotWrite (path : FilePath) (reason : DiskError)
  deriving DecidableEq

def WorkspaceError.message : WorkspaceError → String
  | .notOpen document => "document is not open: " ++ document.text
  | .cannotOpen path reason => "cannot open " ++ path.text ++ ": " ++ reason.message
  | .cannotWrite path reason => "cannot write " ++ path.text ++ ": " ++ reason.message

structure Buffer where
  path : FilePath
  languageId : String
  text : String
  deriving DecidableEq

/-- Which language the files of an extension are in. -/
structure LanguageRule where
  extension : String
  languageId : String
  deriving DecidableEq

structure Workspace where
  disk : Disk
  buffers : Table Buffer
  visible : List DocumentId
  active : Option DocumentId
  languages : List LanguageRule

namespace Workspace

def plainText : String := "plaintext"

def firstLanguages : List LanguageRule :=
  [⟨"temme", "temme"⟩, ⟨"json", "json"⟩, ⟨"html", "html"⟩]

def onDisk (disk : Disk) : Workspace :=
  ⟨disk, .empty, [], none, firstLanguages⟩

/-- A workspace with a rule for an extension in place of the earlier ones. -/
def withLanguage (workspace : Workspace) (extension languageId : String) : Workspace :=
  { workspace with
    languages :=
      workspace.languages.filter (·.extension ≠ extension) ++ [⟨extension, languageId⟩] }

def languageOf (workspace : Workspace) (path : FilePath) : String :=
  let extension := String.ofList (path.extension?.getD [])
  match workspace.languages.find? (·.extension = extension) with
  | some rule => rule.languageId
  | none => plainText

def buffer? (workspace : Workspace) (document : DocumentId) : Option Buffer :=
  workspace.buffers.get? document.text

def isOpen (workspace : Workspace) (document : DocumentId) : Bool :=
  (workspace.buffer? document).isSome

def isVisible (workspace : Workspace) (document : DocumentId) : Bool :=
  workspace.visible.contains document

def document? (workspace : Workspace) (document : DocumentId) : Option Document :=
  (workspace.buffer? document).map fun buffer =>
    ⟨document, some buffer.path, buffer.languageId, buffer.text⟩

def text? (workspace : Workspace) (document : DocumentId) : Option String :=
  (workspace.buffer? document).map (·.text)

def activeDocument? (workspace : Workspace) : Option Document :=
  workspace.active.bind workspace.document?

def setBuffer (workspace : Workspace) (document : DocumentId) (buffer : Buffer) : Workspace :=
  { workspace with buffers := workspace.buffers.insert document.text buffer }

/-- Documents with one more at the end, unless it is among them. -/
def addVisible (visible : List DocumentId) (document : DocumentId) : List DocumentId :=
  if visible.contains document then visible else visible ++ [document]

@[simp] theorem buffer?_setBuffer {workspace : Workspace} {document other : DocumentId}
    {buffer : Buffer} :
    (workspace.setBuffer document buffer).buffer? other =
      if document = other then some buffer else workspace.buffer? other := by
  cases document
  cases other
  simp only [buffer?, setBuffer, Table.get?_insert, DocumentId.mk.injEq]

end Workspace

end LiveSelector
