import LiveSelector.Engine.Basic

namespace LiveSelector.Engine

/-!
Runs.  A run fetches a page, evaluates the document in focus on it once, and writes the result.
-/

variable {Page : Type}

def deliver (setup : Setup Page) (engine : Engine Page) (document : Document) (value : Json) :
    Engine Page × Except EngineError Output :=
  match engine.openOutput setup document with
  | (opened, .error reason) => (opened, .error (.workspace reason))
  | (opened, .ok output) =>
    match opened.writeOutput output value with
    | (written, .error reason) => (written, .error (.workspace reason))
    | (written, .ok ()) => (written, .ok output)

/-- An engine that has evaluated a document once and written the result. -/
def runOnce (setup : Setup Page) (engine : Engine Page) (document : Document) (link : Link) :
    Engine Page × Except EngineError Output :=
  match engine.load setup document link with
  | (loaded, .error reason) => (loaded, .error (.fetch reason))
  | (loaded, .ok (_, page)) =>
    match setup.selector.outcome page document.text with
    | .success value => loaded.deliver setup document value
    | .syntaxFailure message _ => (loaded, .error (.syntaxFault message))
    | .runtimeFailure message _ => (loaded, .error (.evaluation message))

/-- An engine that has run the document in focus, unless something else goes on. -/
def runSelector (setup : Setup Page) (engine : Engine Page) (link : Option Link) :
    Engine Page × Except EngineError RunReport :=
  if !engine.session.state.isReady then (engine, .error (.busy engine.session.state))
  else
    match engine.prepare setup link with
    | (prepared, .error reason) => (prepared, .ok (.skipped reason))
    | (prepared, .ok (document, link)) =>
      match (prepared.enter .running).runOnce setup document link with
      | (after, result) =>
        match result with
        | .ok output => ((after.enter .ready).notify .info runSucceeded, .ok (.completed output))
        | .error reason => ((after.enter .ready).report reason, .error reason)

end LiveSelector.Engine
