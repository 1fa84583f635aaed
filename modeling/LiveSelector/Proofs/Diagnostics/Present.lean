import LiveSelector.Proofs.Diagnostics.Listed

namespace LiveSelector.Engine

/-! The diagnostics of a changed document.  A check and, in the watched document, an evaluation both
set or clear them within one event; what stands there afterwards depends on the text, the page and
the write, and not on what stood there before. -/

variable {Page : Type} {setup : Setup Page} {engine : Engine Page} {watch : Watch Page}
variable {id : DocumentId} {document : Document} {config : Config} {changedLine : Nat}

/-- The document is watched, and its evaluation fails though the selector is not faulty. -/
def FailsOn (setup : Setup Page) (engine : Engine Page) (document : Document) (fault : Fault) :
    Prop :=
  ∃ watch, engine.session.watch = some watch ∧ watch.document = document.id ∧
    setup.selector.evaluate watch.page document.text = .error fault ∧ fault.isSyntax = false

/-- The document is watched, its evaluation succeeds, and the output takes the value. -/
def Delivers (setup : Setup Page) (engine : Engine Page) (document : Document) : Prop :=
  ∃ watch value workspace, engine.session.watch = some watch ∧ watch.document = document.id ∧
    setup.selector.evaluate watch.page document.text = .ok value ∧
    engine.workspace.replaceAll watch.output.id value.render = (workspace, .ok ())

/-- What the evaluation of a changed document shows; a document that is not watched is not
evaluated. -/
def evaluationShown? (setup : Setup Page) (engine : Engine Page) (id : DocumentId)
    (changedLine : Nat) : Option (List Diagnostic) :=
  match engine.session.watch with
  | none => none
  | some watch =>
    if watch.document = id then (effectOf setup engine.workspace watch changedLine).shown else none

theorem evaluationShown?_watched (installed : engine.session.watch = some watch) :
    engine.evaluationShown? setup watch.document changedLine =
      (effectOf setup engine.workspace watch changedLine).shown := by
  simp only [evaluationShown?, installed, if_true]

theorem evaluationShown?_elsewhere (elsewhere : engine.watched? ≠ some id) :
    engine.evaluationShown? setup id changedLine = none := by
  cases installed : engine.session.watch with
  | none => simp only [evaluationShown?, installed]
  | some watch =>
      have other : watch.document ≠ id := by
        rintro rfl
        exact elsewhere (by rw [watched?, installed, Option.map_some])
      simp only [evaluationShown?, installed, if_neg other]

/-- Of one change the check comes first, then the evaluation; both have to do with the changed
document alone. -/
theorem handleEvent_diagnostics (setup : Setup Page) (id : DocumentId) (settled : Settled engine)
    (changes : List TextChange) :
    (engine.handleEvent setup (.changed id changes)).1.diagnostics =
      (engine.diagnostics.show? id
          ((grammarOf setup engine.workspace id).map GrammarCheck.shown)).show? id
        (engine.evaluationShown? setup id
          ((EditorEvent.changed id changes).changedLine?.getD 0)) := by
  by_cases watched : engine.watched? = some id
  · obtain ⟨watch, installed, rfl⟩ := Option.map_eq_some_iff.mp watched
    have here : (EditorEvent.changed watch.document changes).changes engine.watched? = true := by
      simp [EditorEvent.changes, watched]
    rw [handleEvent_watched settled installed here, completeEvaluation_effect checkTicket_issued,
      evaluationShown?_watched installed]
    rfl
  · rw [handleEvent_elsewhere settled watched, evaluationShown?_elsewhere watched]
    rfl

theorem shown_of_failsOn {fault : Fault} (found : engine.workspace.document? id = some document)
    (fails : engine.FailsOn setup document fault) :
    engine.evaluationShown? setup id changedLine =
      some [document.lineDiagnostic changedLine fault.normalize.message] := by
  obtain ⟨watch, installed, bound, evaluated, sound⟩ := fails
  obtain ⟨buffer, _, same⟩ := Workspace.document?_buffer found
  have here : watch.document = id := by rw [bound, same]
  subst here
  simp only [evaluationShown?_watched installed, effectOf, found, evaluated, sound,
    Bool.false_eq_true, if_false]

theorem shown_of_delivers (found : engine.workspace.document? id = some document)
    (delivers : engine.Delivers setup document) :
    engine.evaluationShown? setup id changedLine = some [] := by
  obtain ⟨watch, value, workspace, installed, bound, evaluated, written⟩ := delivers
  obtain ⟨buffer, _, same⟩ := Workspace.document?_buffer found
  have here : watch.document = id := by rw [bound, same]
  subst here
  simp only [evaluationShown?_watched installed, effectOf, found, evaluated, written]

theorem shown_of_neither (found : engine.workspace.document? id = some document)
    (sound : ∀ fault, ¬ engine.FailsOn setup document fault)
    (undelivered : ¬ engine.Delivers setup document) :
    engine.evaluationShown? setup id changedLine = none := by
  by_cases watched : engine.watched? = some id
  · obtain ⟨watch, installed, rfl⟩ := Option.map_eq_some_iff.mp watched
    obtain ⟨buffer, _, same⟩ := Workspace.document?_buffer found
    have bound : watch.document = document.id := by rw [same]
    rw [evaluationShown?_watched installed]
    cases evaluated : setup.selector.evaluate watch.page document.text with
    | ok value =>
        rcases written : engine.workspace.replaceAll watch.output.id value.render with
          ⟨workspace, reason | done⟩
        · simp only [effectOf, found, evaluated, written]
        · exact absurd ⟨watch, value, workspace, installed, bound, evaluated, written⟩ undelivered
    | error fault =>
        cases faulty : fault.isSyntax with
        | true => simp only [effectOf, found, evaluated, faulty, if_true]
        | false => exact absurd ⟨watch, installed, bound, evaluated, faulty⟩ (sound fault)
  · exact evaluationShown?_elsewhere watched

theorem evaluationShown?_closed (closed : engine.workspace.document? id = none) :
    engine.evaluationShown? setup id changedLine = none := by
  by_cases watched : engine.watched? = some id
  · obtain ⟨watch, installed, rfl⟩ := Option.map_eq_some_iff.mp watched
    simp only [evaluationShown?_watched installed, effectOf, closed]
  · exact evaluationShown?_elsewhere watched

theorem grammarOf_selector (found : engine.workspace.document? id = some document)
    (selector : document.languageId = setup.config.languageId) :
    (grammarOf setup engine.workspace id).map GrammarCheck.shown =
      some ((setup.selector.check document.text).toList.map document.diagnosticOf) := by
  simp only [grammarOf, found, selector, ne_eq, not_true_eq_false, if_false]
  cases setup.selector.check document.text with
  | none => rfl
  | some fault => rfl

/-- A document in another language is not watched as long as the rules stay. -/
theorem Listed.not_watched
    (listed : Listed (fun path language => engine.workspace.languageOf path = language)
      config.languageId engine)
    (found : engine.workspace.document? id = some document)
    (other : document.languageId ≠ config.languageId) : engine.watched? ≠ some id := by
  intro watched
  obtain ⟨watch, installed, rfl⟩ := Option.map_eq_some_iff.mp watched
  have bound := listed.bound watch installed
  have language := listed.language found
  exact other (language.symm.trans bound)

/-- Whatever a run has left published, a change of a document that is open and in the language of
selectors leaves one diagnostic on the changed line if the document is watched and its evaluation
fails on the page, none if its evaluation is written, and else what the check of the present text
finds.  A document that is not open keeps what it had, and so does one in another language, as long as
nobody changes the rules for languages, and every other document. -/
theorem diagnostics_after_change {disk : Disk} {languages : List LanguageRule}
    {run : List (Setup Page × Operation)} (configured : ∀ call ∈ run, call.1.config = config)
    (same : setup.config = config) (id : DocumentId) (changes : List TextChange) :
    let before := (new { Workspace.onDisk disk with languages } : Engine Page).performAll run
    let line := (EditorEvent.changed id changes).changedLine?.getD 0
    let after := (before.handleEvent setup (.changed id changes)).1
    (∀ document, before.workspace.document? id = some document →
        document.languageId = config.languageId →
          (∀ fault, before.FailsOn setup document fault →
              after.diagnostics.get id = [document.lineDiagnostic line fault.normalize.message]) ∧
            (before.Delivers setup document → after.diagnostics.get id = []) ∧
            ((∀ fault, ¬ before.FailsOn setup document fault) →
              ¬ before.Delivers setup document →
                after.diagnostics.get id =
                  (setup.selector.check document.text).toList.map document.diagnosticOf)) ∧
      (before.workspace.document? id = none → after.diagnostics = before.diagnostics) ∧
      ((∀ call ∈ run, call.2.keepsRules = true) → ∀ document,
        before.workspace.document? id = some document →
          document.languageId ≠ config.languageId → after.diagnostics = before.diagnostics) ∧
      ∀ other, other ≠ id → after.diagnostics.get other = before.diagnostics.get other := by
  intro before line after
  have settled : Settled before := settled_performAll (settled_new _) run
  have published : after.diagnostics = _ := handleEvent_diagnostics setup id settled changes
  refine ⟨?_, ?_, ?_, ?_⟩
  · intro document found selector
    rw [← same] at selector
    have checked := grammarOf_selector found selector
    refine ⟨?_, ?_, ?_⟩
    · intro fault fails
      rw [published, DiagnosticStore.get_show?, if_pos rfl, shown_of_failsOn found fails,
        Option.getD_some]
    · intro delivers
      rw [published, DiagnosticStore.get_show?, if_pos rfl, shown_of_delivers found delivers,
        Option.getD_some]
    · intro sound undelivered
      rw [published, DiagnosticStore.get_show?, if_pos rfl,
        shown_of_neither found sound undelivered, Option.getD_none, DiagnosticStore.get_show?,
        if_pos rfl, checked, Option.getD_some]
  · intro closed
    have unchecked : grammarOf setup before.workspace id = none := by simp only [grammarOf, closed]
    rw [published, evaluationShown?_closed closed, unchecked]
    rfl
  · intro kept document found foreign
    have listed := listed_present disk languages configured kept
    have unchecked : grammarOf setup before.workspace id = none := by
      simp only [grammarOf, found, same, foreign, ne_eq, not_false_eq_true, if_true]
    rw [published, evaluationShown?_elsewhere (listed.not_watched found foreign), unchecked]
    rfl
  · intro other different
    rw [published, DiagnosticStore.get_show?, if_neg (Ne.symm different),
      DiagnosticStore.get_show?, if_neg (Ne.symm different)]

/-- A setup in which no selector is faulty and every evaluation fails on its page. -/
def failingSetup : Setup Unit :=
  { quietSetup with
    selector := ⟨fun _ => none, fun _ => (), fun _ _ => .error ⟨"TypeError", "no such tag", none⟩⟩ }

/-- A selector that is watched. -/
def failingRun : List (Setup Unit × Operation) :=
  [.host (.openPath (.ofText "s.temme")), .host (.setActive ⟨"s.temme"⟩),
    .startWatch (some (.bare "page"))].map (failingSetup, ·)

/-- A change of the watched selector marks its only line. -/
theorem changed_line_marked :
    let before := (new (.onDisk sampleDisk)).performAll failingRun
    let after := (before.handleEvent failingSetup (.changed ⟨"s.temme"⟩ [])).1
    after.diagnostics.get ⟨"s.temme"⟩ = [⟨.onLine 0 0 2, "no such tag"⟩] := by
  intro before after
  have configured : ∀ call ∈ failingRun, call.1.config = .default := by decide
  have found : before.workspace.document? ⟨"s.temme"⟩ =
      some ⟨⟨"s.temme"⟩, some (.ofText "s.temme"), "temme", "h1"⟩ := by decide +kernel
  have fails : before.FailsOn failingSetup ⟨⟨"s.temme"⟩, some (.ofText "s.temme"), "temme", "h1"⟩
      ⟨"TypeError", "no such tag", none⟩ := ⟨_, rfl, rfl, rfl, by decide⟩
  have same : failingSetup.config = .default := rfl
  obtain ⟨published, _⟩ := diagnostics_after_change configured same ⟨"s.temme"⟩ []
  have marked := (published _ found rfl).1 _ fails
  exact marked.trans (by decide +kernel)

end LiveSelector.Engine
