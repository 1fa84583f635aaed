import LiveSelector.Proofs.Session.Fetches

namespace LiveSelector

/-! What a watch is evaluated on.  Setups that check selectors alike and evaluate alike on the page
of the watch are the same to everything that does not start a run or a watch, however differently
they fetch, load and evaluate otherwise. -/

variable {Page : Type} {setup one other : Setup Page} {engine after : Engine Page}
variable {given : Option Link}

/-- Setups that check alike, and evaluate alike on the page of an engine's watch. -/
structure Alike (engine : Engine Page) (one other : Setup Page) : Prop where
  config : other.config = one.config
  parse : other.selector.parse = one.selector.parse
  evaluate : ∀ watch, engine.session.watch = some watch →
    other.selector.evaluate watch.page = one.selector.evaluate watch.page

theorem Alike.later (alike : Alike engine one other)
    (kept : ∀ watch, after.session.watch = some watch →
      ∃ number, engine.session.watch = some { watch with revision := number }) :
    Alike after one other := by
  refine ⟨alike.config, alike.parse, fun watch installed => ?_⟩
  obtain ⟨number, before⟩ := kept watch installed
  exact alike.evaluate { watch with revision := number } before

theorem Alike.of_same (alike : Alike engine one other)
    (same : after.session.watch = engine.session.watch) : Alike after one other :=
  ⟨alike.config, alike.parse, fun watch installed => alike.evaluate watch (same ▸ installed)⟩

namespace Engine

/-- A check asks the setup for the language of selectors and for the faults of a selector, and taking
an event asks it for nothing else. -/
theorem detectGrammarErrors_parse (config : other.config = one.config)
    (parse : other.selector.parse = one.selector.parse) (id : DocumentId) :
    engine.detectGrammarErrors other id = engine.detectGrammarErrors one id := by
  simp only [detectGrammarErrors, SelectorEngine.check, config, parse]

theorem accept_parse (config : other.config = one.config)
    (parse : other.selector.parse = one.selector.parse) (event : EditorEvent) :
    engine.accept other event = engine.accept one event := by
  have checked : engine.checkChange other event = engine.checkChange one event := by
    cases event with
    | changed document changes => exact detectGrammarErrors_parse config parse document
    | _ => rfl
  simp only [accept, checked]

theorem acceptAll_parse (engine : Engine Page) (config : other.config = one.config)
    (parse : other.selector.parse = one.selector.parse) (events : List EditorEvent) :
    engine.acceptAll other events = engine.acceptAll one events := by
  induction events generalizing engine with
  | nil => rfl
  | cons event rest ih => simp only [acceptAll, accept_parse config parse, ih]

theorem detectGrammarErrors_alike (alike : Alike engine one other) (id : DocumentId) :
    engine.detectGrammarErrors other id = engine.detectGrammarErrors one id :=
  detectGrammarErrors_parse alike.config alike.parse id

theorem activate_alike (alike : Alike engine one other) :
    engine.activate other = engine.activate one := by
  have shown : Alike (engine.enter engine.session.state) one other := alike.of_same rfl
  simp only [activate, detectGrammarErrors_alike shown]

theorem accept_alike (alike : Alike engine one other) (event : EditorEvent) :
    engine.accept other event = engine.accept one event :=
  accept_parse alike.config alike.parse event

theorem Alike.accept (alike : Alike engine one other) (event : EditorEvent) :
    Alike (engine.accept one event).1 one other := by
  refine alike.later fun watch installed => ?_
  have moved : (engine.move one (.accept event)).session.watch = some watch := installed
  rcases watch_of_move moved with before | ⟨_, _, same, _⟩
  · exact before
  · cases same

theorem acceptAll_alike (alike : Alike engine one other) (events : List EditorEvent) :
    engine.acceptAll other events = engine.acceptAll one events ∧
      Alike (engine.acceptAll one events).1 one other := by
  refine ⟨acceptAll_parse engine alike.config alike.parse events, ?_⟩
  induction events generalizing engine with
  | nil => exact alike
  | cons event rest ih => exact ih (Alike.accept alike event)

theorem completeEvaluation_alike (alike : Alike engine one other) (ticket : Ticket) :
    engine.completeEvaluation other ticket = engine.completeEvaluation one ticket := by
  cases checked : engine.session.checkTicket ticket with
  | error reason => rw [completeEvaluation_refused checked, completeEvaluation_refused checked]
  | ok watch =>
      have installed := Session.watch_of_checkTicket checked
      have same : effectOf other engine.workspace watch ticket.changedLine =
          effectOf one engine.workspace watch ticket.changedLine := by
        simp only [effectOf, alike.evaluate watch installed]
      rw [completeEvaluation_effect checked, completeEvaluation_effect checked, same]

theorem finish_alike (alike : Alike engine one other) (handled : HandledEvent)
    (ticket : Option Ticket) :
    engine.finish other handled ticket = engine.finish one handled ticket ∧
      Alike (engine.finish one handled ticket).1 one other := by
  cases ticket with
  | none => exact ⟨rfl, alike⟩
  | some ticket =>
      refine ⟨by simp only [finish, completeEvaluation_alike alike], alike.of_same ?_⟩
      exact congrArg Session.watch (completeEvaluation_session ticket)

theorem finishAll_alike (alike : Alike engine one other)
    (entries : List (HandledEvent × Option Ticket)) :
    engine.finishAll other entries = engine.finishAll one entries := by
  induction entries generalizing engine with
  | nil => rfl
  | cons entry rest ih =>
      obtain ⟨here, later⟩ := finish_alike alike entry.1 entry.2
      simp only [finishAll, here, ih later]

theorem handleEvents_alike (alike : Alike engine one other) (events : List EditorEvent) :
    engine.handleEvents other events = engine.handleEvents one events := by
  obtain ⟨accepted, later⟩ := acceptAll_alike alike events
  simp only [handleEvents, accepted, finishAll_alike later]

theorem handleEvent_alike (alike : Alike engine one other) (event : EditorEvent) :
    engine.handleEvent other event = engine.handleEvent one event := by
  have accepted := accept_alike alike event
  have finished := finish_alike (Alike.accept alike event) (engine.accept one event).2.1
    (engine.accept one event).2.2
  simp only [handleEvent, accepted, finished.1]

/-- A call that may fetch: a run, or the start of a watch. -/
def Calls (operation : Operation) : Prop :=
  ∃ given, plain operation = .runSelector given ∨ plain operation = .startWatch given

theorem perform_alike (alike : Alike engine one other) {operation : Operation}
    (other_call : ¬ Calls operation) :
    engine.perform other operation = engine.perform one operation := by
  rw [← perform_plain other, ← perform_plain one]
  cases reading : plain operation with
  | runSelector given => exact absurd ⟨given, .inl reading⟩ other_call
  | startWatch given => exact absurd ⟨given, .inr reading⟩ other_call
  | execute command argument =>
      obtain ⟨reason, named⟩ := plain_execute reading
      simp only [perform, execute, named]
  | activate => simp only [perform, activate_alike alike]
  | handleEvent event => simp only [perform, handleEvent_alike alike]
  | handleEvents events => simp only [perform, handleEvents_alike alike]
  | completeEvaluation ticket => simp only [perform, completeEvaluation_alike alike]
  | detectGrammarErrors document => simp only [perform, detectGrammarErrors_alike alike]
  | _ => rfl

theorem answersOf_call {operation : Operation} (fetched : engine.answersOf setup operation ≠ []) :
    Calls operation := by
  cases reading : plain operation with
  | runSelector given => exact ⟨given, .inl reading⟩
  | startWatch given => exact ⟨given, .inr reading⟩
  | _ => exact absurd (by simp only [answersOf, reading]) fetched

/-- The evaluation that comes with the start of a watch is made on the page of that watch. -/
theorem startWatch_evaluate (evaluate : Page → String → Except Fault Json)
    (same : ∀ watch, (engine.startWatch setup given).1.session.watch = some watch →
      evaluate watch.page = setup.selector.evaluate watch.page) :
    engine.startWatch { setup with selector := { setup.selector with evaluate } } given =
      engine.startWatch setup given := by
  have opens : engine.openWatch { setup with selector := { setup.selector with evaluate } } given =
      engine.openWatch setup given := rfl
  simp only [startWatch, evaluateFirst, opens] at same ⊢
  rcases opening : engine.openWatch setup given with ⟨begun, reason | reason | opened⟩
  · rfl
  · rfl
  · rw [opening] at same
    simp only at same ⊢
    rcases issuing : begun.beginEvaluation 0 with ⟨issued, none | ticket⟩
    · rfl
    · rw [issuing] at same
      simp only [completeEvaluation_session] at same
      have alike : Alike issued setup
          { setup with selector := { setup.selector with evaluate } } := ⟨rfl, rfl, same⟩
      simp only [completeEvaluation_alike alike]

/-- A run, or the start of a watch, fetches at most once, and not at all if it is turned away or
skipped; nothing else fetches, and every page that is fetched is loaded once.  A watch is on the
page that the call which opened it has fetched, with the link that came with it, and has been on
that page ever since; no evaluation depends on what the selector engine makes of any other page. -/
theorem watch_stays_on_fetched_page (workspace : Workspace)
    (run : List (Setup Page × Operation)) :
    let start : Engine Page := new workspace
    let engine := start.performAll run
    Fetches start (start.answersIn run) engine ∧
      (∀ setup operation,
        Fetches engine (engine.answersOf setup operation) (engine.perform setup operation) ∧
          (engine.answersOf setup operation).length ≤ 1 ∧
          (engine.answersOf setup operation ≠ [] → Calls operation)) ∧
      (∀ setup given,
        (((∃ state, (engine.runSelector setup given).2 = .error (.busy state)) ∨
            ∃ reason, (engine.runSelector setup given).2 = .ok (.skipped reason)) →
          engine.answersOf setup (.runSelector given) = []) ∧
        (((∃ state, (engine.startWatch setup given).2 = .error (.busy state)) ∨
            ∃ reason, (engine.startWatch setup given).2 = .ok (.skipped reason)) →
          engine.answersOf setup (.startWatch given) = [])) ∧
      (∀ watch, engine.session.watch = some watch →
        ∃ early setup operation late, run = early ++ (setup, operation) :: late ∧
          OpenedBy (start.performAll early) setup operation watch ∧
          ((start.performAll early).perform setup operation).Keeps late watch) ∧
      (∀ one other, Alike engine one other →
        (∀ ticket, engine.completeEvaluation other ticket = engine.completeEvaluation one ticket) ∧
          (∀ event, engine.handleEvent other event = engine.handleEvent one event) ∧
          (∀ events, engine.handleEvents other events = engine.handleEvents one events) ∧
          ∀ operation, ¬ Calls operation →
            engine.perform other operation = engine.perform one operation) ∧
      ∀ setup given evaluate,
        (∀ watch, (engine.startWatch setup given).1.session.watch = some watch →
          evaluate watch.page = setup.selector.evaluate watch.page) →
        engine.startWatch { setup with selector := { setup.selector with evaluate } } given =
          engine.startWatch setup given := by
  intro start engine
  refine ⟨performAll_fetches run, fun setup operation => ⟨perform_fetches operation,
    answersOf_length_le operation, answersOf_call⟩, fun setup given => ⟨answersOf_runSelector,
    answersOf_startWatch⟩, fun watch installed => ?_, fun one other alike =>
    ⟨completeEvaluation_alike alike, handleEvent_alike alike, handleEvents_alike alike,
      fun operation => perform_alike alike⟩, fun setup given => startWatch_evaluate⟩
  rcases watch_of_run installed with kept | opened
  · obtain ⟨number, here⟩ := kept [] List.nil_prefix
    cases here
  · exact opened

end Engine

end LiveSelector
