import LiveSelector.Engine.Basic

namespace LiveSelector.Engine

/-!
Grammar checks.  A check of a selector document replaces its diagnostics: by the fault's if the
text is faulty, by none if it is not.
-/

variable {Page : Type}

/-- An engine that has checked a document, and what the check has found; documents that are not
open or in another language are not checked. -/
def detectGrammarErrors (setup : Setup Page) (engine : Engine Page) (id : DocumentId) :
    Engine Page × Option GrammarCheck :=
  match engine.workspace.document? id with
  | none => (engine, none)
  | some document =>
    if document.languageId ≠ setup.config.languageId then (engine, none)
    else
      match setup.selector.check document.text with
      | none => ({ engine with diagnostics := engine.diagnostics.clear id }, some .clean)
      | some fault =>
        let diagnostic := document.diagnosticOf fault
        ({ engine with diagnostics := engine.diagnostics.set id [diagnostic] },
          some (.invalid diagnostic))

/-- An engine that shows its state again and has checked the document in focus. -/
def activate (setup : Setup Page) (engine : Engine Page) : Engine Page × Option GrammarCheck :=
  let shown := engine.enter engine.session.state
  match shown.workspace.activeDocument? with
  | none => (shown, none)
  | some document => shown.detectGrammarErrors setup document.id

end LiveSelector.Engine
