import LiveSelector.Proofs.Engine.Hosted
import LiveSelector.Proofs.Session.History

namespace LiveSelector

/-! What a watch is bound to.  A watch keeps its document and its output, so what ties them when the
watch is opened ties them as long as it lasts. -/

/-- The document that the output of a document goes by, for a document that goes by a path. -/
def DocumentId.companion (document : DocumentId) (suffix : String) : DocumentId :=
  ((FilePath.ofText document.text).companion suffix).documentId

namespace Workspace

variable {workspace : Workspace} {id : DocumentId} {document : Document}

theorem Keyed.outputPath (keyed : workspace.Keyed) (found : workspace.document? id = some document)
    (suffix : String) :
    document.outputPath suffix = (FilePath.ofText id.text).companion suffix := by
  obtain ⟨buffer, opened, same⟩ := document?_buffer found
  rw [same, Document.outputPath, Option.getD_some, keyed.path_of_id opened]

end Workspace

namespace Engine

variable {Page : Type} {setup : Setup Page} {engine : Engine Page}
variable {fits : DocumentId → DocumentId → Prop} {suffix : String} {config : Config}

/-- The document and the output of the watch, if there is one, are tied to each other. -/
def Bound (fits : DocumentId → DocumentId → Prop) (engine : Engine Page) : Prop :=
  ∀ watch, engine.session.watch = some watch → fits watch.document watch.output.id

theorem bound_new (workspace : Workspace) : Bound fits (new workspace : Engine Page) := by
  intro watch installed
  contradiction

/-- A move keeps what ties the document to the output if the opening of a watch makes it. -/
theorem bound_move (bound : Bound fits engine)
    (opening : ∀ document, engine.workspace.activeDocument? = some document →
      document.languageId = setup.config.languageId →
      fits document.id (document.outputPath setup.config.outputSuffix).documentId)
    (move : Move) : Bound fits (engine.move setup move) := by
  intro watch installed
  obtain ⟨number, before⟩ | ⟨given, opened, _, begun⟩ := watch_of_move installed
  · exact bound { watch with revision := number } before
  · obtain ⟨document, held, focused, selector, there, named, output, path⟩ := openWatch_watch begun
    cases installed.symm.trans there
    rw [named, output, path]
    exact opening document focused selector

/-- What is known of the documents that are open and of the output of the watch: they go by the
paths of files with names, and the output is the companion of the watched document. -/
structure Placed (suffix : String) (engine : Engine Page) : Prop where
  keyed : engine.workspace.Keyed
  filed : engine.workspace.Filed
  bound : Bound (fun document output => output = document.companion suffix ∧
    (FilePath.ofText document.text).NamesFile) engine

theorem placed_new (disk : Disk) : Placed suffix (new (.onDisk disk) : Engine Page) :=
  ⟨Workspace.keyed_onDisk disk, Workspace.filed_onDisk disk, bound_new _⟩

theorem Placed.namesFile (placed : Placed suffix engine) {id : DocumentId} {document : Document}
    (found : engine.workspace.document? id = some document) :
    (FilePath.ofText id.text).NamesFile := by
  obtain ⟨buffer, opened, _⟩ := Workspace.document?_buffer found
  rw [← placed.keyed.path_of_id opened]
  exact placed.filed id buffer opened

theorem placed_move (placed : Placed suffix engine) (same : setup.config.outputSuffix = suffix)
    (move : Move) : Placed suffix (engine.move setup move) := by
  obtain ⟨actions, hosted⟩ := move_leads setup engine move
  refine ⟨?_, ?_, bound_move placed.bound ?_ move⟩
  · rw [hosted]
    exact Workspace.keyed_hostAll placed.keyed actions
  · rw [hosted]
    exact Workspace.filed_hostAll placed.filed actions
  · intro document focused _
    have found := Workspace.activeDocument?_open focused
    rw [same, placed.keyed.outputPath found]
    exact ⟨rfl, placed.namesFile found⟩

theorem placed_performAll {disk : Disk} {run : List (Setup Page × Operation)}
    (configured : ∀ call ∈ run, call.1.config = config) :
    Placed config.outputSuffix ((new (.onDisk disk)).performAll run) := by
  apply performAll_preserves (placed_new disk)
  intro call member engine move placed
  exact placed_move placed (by rw [configured call member]) move

end Engine

end LiveSelector
