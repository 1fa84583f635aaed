import LiveSelector.Engine.Grammar
import LiveSelector.Proofs.Engine.Evaluation
import LiveSelector.Proofs.Workspace.Replacing

namespace LiveSelector

/-! Evaluations and grammar checks as effects on the engine.  What an evaluation does is settled by
the workspace, the watch and the line that was changed, and what a check does by the workspace alone;
neither looks at the diagnostics or at what the user has been told. -/

variable {Page : Type} {setup : Setup Page} {workspace : Workspace} {watch : Watch Page}
variable {engine : Engine Page} {ticket : Ticket} {document : DocumentId}

/-- How the report of an evaluation may read when the evaluation is repeated. -/
def EvaluationReport.Recurs (first again : EvaluationReport) : Prop :=
  again = first ∨
    ∃ path, first = .outputFailed (WorkspaceError.cannotWrite path .alreadyExists).message ∧
      again = .outputFailed (WorkspaceError.cannotWrite path .notDirectory).message

namespace DiagnosticStore

variable {store : DiagnosticStore} {other : DocumentId} {shown : Option (List Diagnostic)}

/-- A store in which the diagnostics of a document are replaced, if there is something to replace
them by. -/
def show? (store : DiagnosticStore) (document : DocumentId) (shown : Option (List Diagnostic)) :
    DiagnosticStore :=
  match shown with
  | none => store
  | some diagnostics => store.set document diagnostics

@[simp] theorem get_show? :
    (store.show? document shown).get other =
      if document = other then shown.getD (store.get other) else store.get other := by
  cases shown with
  | none => simp [show?]
  | some diagnostics => simp [show?]

end DiagnosticStore

/-- What an evaluation leaves behind: the workspace, the diagnostics of the watched document if they
are replaced, what the user is told, and the report. -/
structure Effect where
  workspace : Workspace
  shown : Option (List Diagnostic)
  notices : List Notice
  report : EvaluationReport

namespace Engine

def effectOf (setup : Setup Page) (workspace : Workspace) (watch : Watch Page)
    (changedLine : Nat) : Effect :=
  match workspace.document? watch.document with
  | none => ⟨workspace, none, [], .discarded .documentUnavailable⟩
  | some document =>
    match setup.selector.evaluate watch.page document.text with
    | .ok value =>
      match workspace.replaceAll watch.output.id value.render with
      | (after, .ok ()) => ⟨after, some [], [], .written⟩
      | (after, .error reason) =>
        ⟨after, none, [⟨.error, reason.message⟩], .outputFailed reason.message⟩
    | .error fault =>
      if fault.isSyntax then ⟨workspace, none, [], .syntaxSuppressed⟩
      else
        let diagnostic := document.lineDiagnostic changedLine fault.normalize.message
        ⟨workspace, some [diagnostic], [],
          .failed diagnostic.range.start.line fault.normalize.message⟩

theorem effectOf_revision (changedLine number : Nat) :
    effectOf setup workspace { watch with revision := number } changedLine =
      effectOf setup workspace watch changedLine := rfl

/-- An engine with an effect on a watched document's evaluation. -/
def absorb (engine : Engine Page) (document : DocumentId) (effect : Effect) : Engine Page :=
  { engine with
    workspace := effect.workspace
    diagnostics := engine.diagnostics.show? document effect.shown
    journal := { engine.journal with notices := engine.journal.notices ++ effect.notices } }

theorem completeEvaluation_effect (accepted : engine.session.checkTicket ticket = .ok watch) :
    engine.completeEvaluation setup ticket =
      (engine.absorb watch.document
          (effectOf setup engine.workspace watch ticket.changedLine),
        (effectOf setup engine.workspace watch ticket.changedLine).report) := by
  cases found : engine.workspace.document? watch.document with
  | none =>
      rw [completeEvaluation_closed accepted found]
      simp only [effectOf, found, absorb, DiagnosticStore.show?, List.append_nil]
  | some document =>
      rw [completeEvaluation_accepted accepted found]
      cases evaluated : setup.selector.evaluate watch.page document.text with
      | ok value =>
          rcases replaced : engine.workspace.replaceAll watch.output.id value.render with
            ⟨after, reason | done⟩
          · rw [evaluate_unwritten evaluated replaced]
            simp only [effectOf, found, evaluated, replaced, absorb, DiagnosticStore.show?]
            rfl
          · rw [evaluate_written evaluated replaced]
            simp only [effectOf, found, evaluated, replaced, absorb, DiagnosticStore.show?,
              List.append_nil]
            rfl
      | error fault =>
          cases faulty : fault.isSyntax with
          | true =>
              rw [evaluate_suppressed evaluated faulty]
              simp only [effectOf, found, evaluated, faulty, if_true, absorb,
                DiagnosticStore.show?, List.append_nil]
          | false =>
              rw [evaluate_failed evaluated faulty]
              simp only [effectOf, found, evaluated, faulty, Bool.false_eq_true, if_false, absorb,
                DiagnosticStore.show?, List.append_nil]

/-- All that an evaluation does to a workspace is to replace the text of the watch's output. -/
theorem effectOf_workspace (setup : Setup Page) (workspace : Workspace) (watch : Watch Page)
    (changedLine : Nat) :
    (effectOf setup workspace watch changedLine).workspace = workspace ∨
      ∃ text, (effectOf setup workspace watch changedLine).workspace =
        (workspace.replaceAll watch.output.id text).1 := by
  simp only [effectOf]
  split
  · exact .inl rfl
  · split
    · rename_i value _
      right
      refine ⟨value.render, ?_⟩
      split
      · rename_i replaced
        rw [replaced]
      · rename_i replaced
        rw [replaced]
    · left
      split
      · rfl
      · rfl

theorem effectOf_document? (setup : Setup Page) (workspace : Workspace) (changedLine : Nat)
    (different : document ≠ watch.output.id) :
    (effectOf setup workspace watch changedLine).workspace.document? document =
      workspace.document? document := by
  obtain same | ⟨text, same⟩ := effectOf_workspace setup workspace watch changedLine
  · rw [same]
  · rw [same]
    simp only [Workspace.document?, Workspace.replaceAll_buffer? different]

theorem effectOf_isOpen (changedLine : Nat) :
    (effectOf setup workspace watch changedLine).workspace.isOpen document =
      workspace.isOpen document := by
  obtain same | ⟨text, same⟩ := effectOf_workspace setup workspace watch changedLine
  · rw [same]
  · rw [same, Workspace.replaceAll_isOpen]

theorem effectOf_isVisible (changedLine : Nat) :
    (effectOf setup workspace watch changedLine).workspace.isVisible document =
      workspace.isVisible document := by
  obtain same | ⟨text, same⟩ := effectOf_workspace setup workspace watch changedLine
  · rw [same]
  · rw [same, Workspace.replaceAll_isVisible]

/-- What an evaluation tells the user is why its result could not be written. -/
def writeErrors (report : EvaluationReport) : List Notice :=
  match report with
  | .outputFailed message => [⟨.error, message⟩]
  | _ => []

theorem effectOf_notices (changedLine : Nat) :
    (effectOf setup workspace watch changedLine).notices =
      writeErrors (effectOf setup workspace watch changedLine).report := by
  simp only [effectOf]
  split
  · rfl
  · split
    · split
      · rfl
      · rfl
    · split
      · rfl
      · rfl

/-- An evaluation that follows another of the same text comes to the same as it would without the
other, though a second write may be refused in other words. -/
theorem effectOf_again (setup : Setup Page) (workspace : Workspace)
    (different : watch.document ≠ watch.output.id) (early late : Nat) :
    (effectOf setup (effectOf setup workspace watch early).workspace watch late).workspace =
        (effectOf setup workspace watch late).workspace ∧
      (effectOf setup (effectOf setup workspace watch early).workspace watch late).shown =
        (effectOf setup workspace watch late).shown ∧
      (effectOf setup workspace watch late).report.Recurs
        (effectOf setup (effectOf setup workspace watch early).workspace watch late).report ∧
      (effectOf setup workspace watch early).shown.isSome =
        (effectOf setup workspace watch late).shown.isSome := by
  cases found : workspace.document? watch.document with
  | none =>
      have unchanged : ∀ line, effectOf setup workspace watch line =
          ⟨workspace, none, [], .discarded .documentUnavailable⟩ := by
        intro line
        simp only [effectOf, found]
      simp only [unchanged]
      exact ⟨trivial, trivial, .inl rfl, trivial⟩
  | some document =>
      cases evaluated : setup.selector.evaluate watch.page document.text with
      | ok value =>
          rcases replaced : workspace.replaceAll watch.output.id value.render with
            ⟨after, reason | done⟩
          · have first : ∀ line, effectOf setup workspace watch line =
                ⟨after, none, [⟨.error, reason.message⟩], .outputFailed reason.message⟩ := by
              intro line
              simp only [effectOf, found, evaluated, replaced]
            have same : after.document? watch.document = some document := by
              have kept := effectOf_document? setup workspace early
                different
              rw [first early] at kept
              rw [kept, found]
            obtain ⟨again, refused, recurs⟩ := Workspace.replaceAll_again_error replaced
            have second : ∀ line, effectOf setup after watch line =
                ⟨after, none, [⟨.error, again.message⟩], .outputFailed again.message⟩ := by
              intro line
              simp only [effectOf, same, evaluated, refused]
            simp only [first, second]
            refine ⟨trivial, trivial, ?_, trivial⟩
            rcases recurs with rfl | ⟨path, rfl, rfl⟩
            · exact .inl rfl
            · exact .inr ⟨path, rfl, rfl⟩
          · have first : ∀ line, effectOf setup workspace watch line =
                ⟨after, some [], [], .written⟩ := by
              intro line
              simp only [effectOf, found, evaluated, replaced]
            have same : after.document? watch.document = some document := by
              have kept := effectOf_document? setup workspace early
                different
              rw [first early] at kept
              rw [kept, found]
            have second : ∀ line, effectOf setup after watch line =
                ⟨after, some [], [], .written⟩ := by
              intro line
              simp only [effectOf, same, evaluated, Workspace.replaceAll_again_ok replaced]
            simp only [first, second]
            exact ⟨trivial, trivial, .inl rfl, trivial⟩
      | error fault =>
          have still : (effectOf setup workspace watch early).workspace = workspace := by
            simp only [effectOf, found, evaluated]
            split
            · rfl
            · rfl
          rw [still]
          refine ⟨rfl, rfl, .inl rfl, ?_⟩
          simp only [effectOf, found, evaluated]
          split
          · rfl
          · rfl

end Engine

/-- The diagnostics that a check leaves behind. -/
def GrammarCheck.shown : GrammarCheck → List Diagnostic
  | .clean => []
  | .invalid diagnostic => [diagnostic]

namespace Engine

/-- What a grammar check of a document finds. -/
def grammarOf (setup : Setup Page) (workspace : Workspace) (id : DocumentId) :
    Option GrammarCheck :=
  match workspace.document? id with
  | none => none
  | some document =>
    if document.languageId ≠ setup.config.languageId then none
    else
      match setup.selector.check document.text with
      | none => some .clean
      | some fault => some (.invalid (document.diagnosticOf fault))

theorem detectGrammarErrors_effect (id : DocumentId) :
    engine.detectGrammarErrors setup id =
      ({ engine with
          diagnostics := engine.diagnostics.show? id
            ((grammarOf setup engine.workspace id).map GrammarCheck.shown) },
        grammarOf setup engine.workspace id) := by
  simp only [detectGrammarErrors, grammarOf]
  cases engine.workspace.document? id with
  | none => rfl
  | some document =>
      simp only
      split
      · rfl
      · cases setup.selector.check document.text with
        | none => rfl
        | some fault => rfl

end Engine

end LiveSelector
