import LiveSelector.Document.DiagnosticStore
import LiveSelector.Engine.Report
import LiveSelector.Json.Printer
import LiveSelector.Link.Choice
import LiveSelector.Log
import LiveSelector.Selector.Basic
import LiveSelector.Workspace.Operations

namespace LiveSelector

/-!
The engine's state and its smallest steps.  What the engine tells and asks the user goes into a
journal, in order.  What it depends on from outside is its setup: the settings, the selector
engine, and the answers to fetches and to questions.
-/

/-- What the user has been told, shown and asked, in order. -/
structure Journal where
  notices : List Notice
  statuses : List Status
  prompts : List Prompt
  deriving DecidableEq

structure Setup (Page : Type) where
  config : Config
  selector : SelectorEngine Page
  /-- The answer to a fetch: how many came before, the disk, the link and its base directory. -/
  fetch : Nat → Disk → Link → Option FilePath → Except FetchError FetchedContent
  /-- The answer to a question: how many came before, and the question. -/
  pick : Nat → Prompt → Option Nat

structure Engine (Page : Type) where
  workspace : Workspace
  hub : Hub
  diagnostics : DiagnosticStore
  session : Session Page
  journal : Journal
  /-- How often a page has been fetched, or tried to. -/
  fetches : Nat
  /-- How often a page has been loaded. -/
  loads : Nat

namespace Engine

variable {Page : Type}

def new (workspace : Workspace) : Engine Page :=
  ⟨workspace, .empty, .empty, .new, ⟨[], [], []⟩, 0, 0⟩

def notify (engine : Engine Page) (level : Level) (text : String) : Engine Page :=
  { engine with
    journal := { engine.journal with notices := engine.journal.notices ++ [⟨level, text⟩] } }

def report (engine : Engine Page) (error : EngineError) : Engine Page :=
  engine.notify .error error.message

/-- An engine whose session has entered a state and shows it. -/
def enter (engine : Engine Page) (state : SessionState) : Engine Page :=
  { engine with
    session := { engine.session with state }
    journal :=
      { engine.journal with statuses := engine.journal.statuses ++ [.ofState state] } }

def load (setup : Setup Page) (engine : Engine Page) (document : Document) (link : Link) :
    Engine Page × Except FetchError (FetchedContent × Page) :=
  match setup.fetch engine.fetches engine.workspace.disk link document.directory? with
  | .error reason => ({ engine with fetches := engine.fetches + 1 }, .error reason)
  | .ok content =>
    ({ engine with fetches := engine.fetches + 1, loads := engine.loads + 1 },
      .ok (content, setup.selector.load content.html))

/-- An engine that has opened the output of a document and made it visible. -/
def openOutput (setup : Setup Page) (engine : Engine Page) (document : Document) :
    Engine Page × Except WorkspaceError Output :=
  let path := document.outputPath setup.config.outputSuffix
  match engine.workspace.openDocument path with
  | (workspace, .error reason) => ({ engine with workspace }, .error reason)
  | (workspace, .ok id) =>
    if workspace.isVisible id then ({ engine with workspace }, .ok ⟨id, path⟩)
    else
      match workspace.showBeside id with
      | .error reason => ({ engine with workspace }, .error reason)
      | .ok shown => ({ engine with workspace := shown }, .ok ⟨id, path⟩)

def writeOutput (engine : Engine Page) (output : Output) (value : Json) :
    Engine Page × Except WorkspaceError Unit :=
  match engine.workspace.replaceAll output.id value.render with
  | (workspace, result) => ({ engine with workspace }, result)

def skip (engine : Engine Page) (reason : SkipReason) : Engine Page :=
  match reason with
  | .noActiveDocument | .notSelectorDocument => engine.notify .warn reason.message
  | .noLinkFound | .noLinkChosen => engine.notify .info reason.message

def asked (engine : Engine Page) (prompt : Option Prompt) : Engine Page :=
  { engine with
    journal := { engine.journal with prompts := engine.journal.prompts ++ prompt.toList } }

/-- The document to work on and the link to use with it: the one given, or one of its text. -/
def prepare (setup : Setup Page) (engine : Engine Page) (link : Option Link) :
    Engine Page × Except SkipReason (Document × Link) :=
  match engine.workspace.activeDocument? with
  | none => (engine.skip .noActiveDocument, .error .noActiveDocument)
  | some document =>
    if document.languageId ≠ setup.config.languageId then
      (engine.skip .notSelectorDocument, .error .notSelectorDocument)
    else
      match link with
      | some link => (engine, .ok (document, link))
      | none =>
        match Link.choose document.text.toList setup.config.linkScanLimit
            (setup.pick engine.journal.prompts.length) with
        | (.resolved link, prompt) => (engine.asked prompt, .ok (document, link))
        | (.noLinkFound, prompt) => ((engine.asked prompt).skip .noLinkFound, .error .noLinkFound)
        | (.noLinkChosen, prompt) =>
          ((engine.asked prompt).skip .noLinkChosen, .error .noLinkChosen)

end Engine

end LiveSelector
