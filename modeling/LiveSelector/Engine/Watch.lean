import LiveSelector.Engine.Evaluation

namespace LiveSelector.Engine

/-!
Watches.  A watch begins with its page fetched, its output open and its listeners installed, and
evaluates the document at once; when it ends its listeners go.
-/

variable {Page : Type}

/-- An engine whose watch, if there was one, has ended, and whether there was one. -/
def stopWatch (engine : Engine Page) : Engine Page × Bool :=
  match engine.session.watch with
  | none => (engine, false)
  | some watch =>
    ({ engine with
        session := engine.session.withoutWatch
        hub := (engine.hub.unsubscribe watch.change).unsubscribe watch.lifecycle }.enter .ready,
      true)

def installWatch (engine : Engine Page) (document : Document) (content : FetchedContent)
    (page : Page) (output : Output) : Engine Page :=
  let (withChange, change) := engine.hub.subscribe (.changesOf document.id)
  let (hub, lifecycle) := withChange.subscribe .lifecycle
  { engine with
    hub
    session :=
      engine.session.install
        { generation := 0, document := document.id, link := content.link, html := content.html,
          page, output, change, lifecycle, revision := 0 } }.enter .watching

/-- An engine that has evaluated its watched document for the first time. -/
def evaluateFirst (setup : Setup Page) (engine : Engine Page) : Engine Page × EvaluationReport :=
  match engine.beginEvaluation 0 with
  | (after, some ticket) => after.completeEvaluation setup ticket
  | (after, none) => (after, .discarded .stale)

structure OpenedWatch where
  document : DocumentId
  link : Link
  output : Output
  deriving DecidableEq

/-- An engine that has begun to watch the document in focus, what it watched before being left, and
has evaluated nothing yet. -/
def openWatch (setup : Setup Page) (engine : Engine Page) (link : Option Link) :
    Engine Page × Except EngineError (Except SkipReason OpenedWatch) :=
  if engine.session.state = .running then (engine, .error (.busy .running))
  else
    match engine.stopWatch.1.prepare setup link with
    | (prepared, .error reason) => (prepared, .ok (.error reason))
    | (prepared, .ok (document, link)) =>
      match prepared.load setup document link with
      | (loaded, .error reason) => (loaded.report (.fetch reason), .error (.fetch reason))
      | (loaded, .ok (content, page)) =>
        match loaded.openOutput setup document with
        | (opened, .error reason) => (opened.report (.workspace reason), .error (.workspace reason))
        | (opened, .ok output) =>
          (opened.installWatch document content page output, .ok (.ok ⟨document.id, link, output⟩))

/-- An engine that watches the document in focus and has evaluated it. -/
def startWatch (setup : Setup Page) (engine : Engine Page) (link : Option Link) :
    Engine Page × Except EngineError WatchReport :=
  match engine.openWatch setup link with
  | (after, .error reason) => (after, .error reason)
  | (after, .ok (.error reason)) => (after, .ok (.skipped reason))
  | (begun, .ok (.ok opened)) =>
    match begun.evaluateFirst setup with
    | (after, initial) =>
      (after, .ok (.started opened.document opened.link opened.output initial))

end LiveSelector.Engine
