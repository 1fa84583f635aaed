import LiveSelector.Engine.Basic

namespace LiveSelector.Engine

/-!
Evaluations of a watched document, in two steps: a ticket is issued, and later the document's text
of that time is evaluated if the ticket is still good.
-/

variable {Page : Type}

/-- An engine that has issued a ticket; without a watch there is none. -/
def beginEvaluation (engine : Engine Page) (changedLine : Nat) : Engine Page × Option Ticket :=
  match engine.session.issueTicket changedLine with
  | none => (engine, none)
  | some (session, ticket) => ({ engine with session }, some ticket)

def writeResult (engine : Engine Page) (watch : Watch Page) (value : Json) :
    Engine Page × EvaluationReport :=
  match engine.writeOutput watch.output value with
  | (after, .ok ()) =>
    ({ after with diagnostics := after.diagnostics.clear watch.document }, .written)
  | (after, .error reason) =>
    (after.report (.workspace reason), .outputFailed (EngineError.workspace reason).message)

def evaluate (setup : Setup Page) (engine : Engine Page) (watch : Watch Page) (document : Document)
    (changedLine : Nat) : Engine Page × EvaluationReport :=
  match setup.selector.outcome watch.page document.text with
  | .success value => engine.writeResult watch value
  | .syntaxFailure _ _ => (engine, .syntaxSuppressed)
  | .runtimeFailure message _ =>
    let diagnostic := document.lineDiagnostic changedLine message
    ({ engine with diagnostics := engine.diagnostics.set watch.document [diagnostic] },
      .failed diagnostic.range.start.line message)

/-- An engine that has done the evaluation of a ticket, if it was still to be done. -/
def completeEvaluation (setup : Setup Page) (engine : Engine Page) (ticket : Ticket) :
    Engine Page × EvaluationReport :=
  match engine.session.checkTicket ticket with
  | .error reason => (engine, .discarded reason)
  | .ok watch =>
    match engine.workspace.document? watch.document with
    | none => (engine, .discarded .documentUnavailable)
    | some document => engine.evaluate setup watch document ticket.changedLine

end LiveSelector.Engine
