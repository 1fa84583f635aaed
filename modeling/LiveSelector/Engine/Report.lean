import LiveSelector.Document.Diagnostic
import LiveSelector.Fetch.Basic
import LiveSelector.Link.Basic
import LiveSelector.Output
import LiveSelector.Session.Watch
import LiveSelector.Workspace.Basic

namespace LiveSelector

/-!
What the engine answers: what became of a run, a watch, an evaluation, an event or a command, and
why an operation failed.
-/

inductive EngineError where
  | fetch (reason : FetchError)
  | workspace (reason : WorkspaceError)
  | syntaxFault (message : String)
  | evaluation (message : String)
  | busy (state : SessionState)
  | invalidLink (link : String) (reason : LinkError)
  deriving DecidableEq

def EngineError.message : EngineError → String
  | .fetch reason => reason.message
  | .workspace reason => reason.message
  | .syntaxFault message => "syntax error: " ++ message
  | .evaluation message => "evaluation failed: " ++ message
  | .busy state => "cannot start while " ++ state.text
  | .invalidLink link reason => "invalid link '" ++ link ++ "': " ++ reason.message

inductive SkipReason where
  | noActiveDocument
  | notSelectorDocument
  | noLinkFound
  | noLinkChosen
  deriving DecidableEq

def SkipReason.message : SkipReason → String
  | .noActiveDocument => "No file opened."
  | .notSelectorDocument => "Not a temme file."
  | .noLinkFound => "No link is found in current file."
  | .noLinkChosen => "No link chosen."

def runSucceeded : String := "Success"

def outputClosed : String := "Output closed, watch stopped."

inductive RunReport where
  | completed (output : Output)
  | skipped (reason : SkipReason)
  deriving DecidableEq

inductive EvaluationReport where
  | written
  /-- The selector failed on the page; `line` is the line marked for it. -/
  | failed (line : Nat) (message : String)
  /-- The selector is faulty, which the grammar check reports. -/
  | syntaxSuppressed
  /-- The result could not be written. -/
  | outputFailed (message : String)
  | discarded (reason : DiscardReason)
  deriving DecidableEq

def EvaluationReport.isWritten (report : EvaluationReport) : Bool :=
  report = .written

inductive WatchReport where
  | started (document : DocumentId) (link : Link) (output : Output) (initial : EvaluationReport)
  | skipped (reason : SkipReason)
  deriving DecidableEq

inductive GrammarCheck where
  | clean
  | invalid (diagnostic : Diagnostic)
  deriving DecidableEq

structure HandledEvent where
  grammar : Option GrammarCheck := none
  evaluation : Option EvaluationReport := none
  /-- Whether the watch ended because its output was closed. -/
  stopped : Bool := false
  deriving DecidableEq

inductive CommandOutcome where
  | run (report : RunReport)
  | watch (report : WatchReport)
  /-- Whether there was a watch to stop. -/
  | stopped (stopped : Bool)
  deriving DecidableEq

end LiveSelector
