import LiveSelector.Engine.Evaluation

namespace LiveSelector

/-! What an evaluation does, case by case: it is discarded, its value is written or cannot be
written, or the selector fails on its page or is faulty. -/

variable {Page : Type} {setup : Setup Page} {engine : Engine Page} {watch : Watch Page}
variable {ticket : Ticket} {document : Document}

theorem Session.watch_of_checkTicket {session : Session Page}
    (accepted : session.checkTicket ticket = .ok watch) : session.watch = some watch := by
  simp only [checkTicket] at accepted
  split at accepted
  · cases accepted
  · split at accepted
    · cases accepted
    · split at accepted <;> cases accepted
      assumption

namespace Engine

theorem evaluate_written {changedLine : Nat} {value : Json} {workspace : Workspace}
    (evaluated : setup.selector.evaluate watch.page document.text = .ok value)
    (replaced : engine.workspace.replaceAll watch.output.id value.render = (workspace, .ok ())) :
    engine.evaluate setup watch document changedLine =
      ({ engine with workspace, diagnostics := engine.diagnostics.clear watch.document },
        .written) := by
  simp [evaluate, SelectorEngine.outcome, evaluated, writeResult, writeOutput, replaced]

theorem evaluate_unwritten {changedLine : Nat} {value : Json} {workspace : Workspace}
    {reason : WorkspaceError}
    (evaluated : setup.selector.evaluate watch.page document.text = .ok value)
    (refused : engine.workspace.replaceAll watch.output.id value.render =
      (workspace, .error reason)) :
    engine.evaluate setup watch document changedLine =
      (report { engine with workspace } (.workspace reason),
        .outputFailed (EngineError.workspace reason).message) := by
  simp [evaluate, SelectorEngine.outcome, evaluated, writeResult, writeOutput, refused]

theorem evaluate_suppressed {changedLine : Nat} {fault : Fault}
    (evaluated : setup.selector.evaluate watch.page document.text = .error fault)
    (faulty : fault.isSyntax = true) :
    engine.evaluate setup watch document changedLine = (engine, .syntaxSuppressed) := by
  simp [evaluate, SelectorEngine.outcome, evaluated, faulty]

theorem evaluate_failed {changedLine : Nat} {fault : Fault}
    (evaluated : setup.selector.evaluate watch.page document.text = .error fault)
    (sound : fault.isSyntax = false) :
    engine.evaluate setup watch document changedLine =
      ({ engine with
          diagnostics := engine.diagnostics.set watch.document
            [document.lineDiagnostic changedLine fault.normalize.message] },
        .failed (document.lineDiagnostic changedLine fault.normalize.message).range.start.line
          fault.normalize.message) := by
  simp [evaluate, SelectorEngine.outcome, evaluated, sound]

theorem completeEvaluation_refused {reason : DiscardReason}
    (refused : engine.session.checkTicket ticket = .error reason) :
    engine.completeEvaluation setup ticket = (engine, .discarded reason) := by
  simp [completeEvaluation, refused]

theorem completeEvaluation_closed (accepted : engine.session.checkTicket ticket = .ok watch)
    (closed : engine.workspace.document? watch.document = none) :
    engine.completeEvaluation setup ticket = (engine, .discarded .documentUnavailable) := by
  simp [completeEvaluation, accepted, closed]

theorem completeEvaluation_accepted (accepted : engine.session.checkTicket ticket = .ok watch)
    (opened : engine.workspace.document? watch.document = some document) :
    engine.completeEvaluation setup ticket =
      engine.evaluate setup watch document ticket.changedLine := by
  simp [completeEvaluation, accepted, opened]

end Engine

end LiveSelector
