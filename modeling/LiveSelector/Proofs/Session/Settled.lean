import LiveSelector.Proofs.Engine.Frames
import LiveSelector.Proofs.Run.Moves

namespace LiveSelector.Engine

/-! The link between a session and the hub.  Four pieces of state, the session's state, its watch,
its generation and the hub's listeners, change in different places; between moves, and so between
operations, they are always in one of two positions. -/

variable {Page : Type} {setup : Setup Page} {engine after : Engine Page} {watch : Watch Page}

/-- Either nothing is watched and nobody listens, or exactly the listeners of the one watch are
installed, which goes by the generation of the session. -/
inductive Settled (engine : Engine Page) : Prop where
  | ready (state : engine.session.state = .ready) (idle : engine.session.watch = none)
      (silent : engine.hub.listeners = [])
  | watching (watch : Watch Page) (state : engine.session.state = .watching)
      (installed : engine.session.watch = some watch)
      (current : watch.generation = engine.session.generation)
      (distinct : watch.change ≠ watch.lifecycle)
      (listeners : engine.hub.listeners =
        [(watch.change, .changesOf watch.document), (watch.lifecycle, .lifecycle)])

theorem settled_new (workspace : Workspace) : Settled (new workspace : Engine Page) :=
  .ready rfl rfl rfl

theorem Settled.of_same (settled : Settled engine) (session : after.session = engine.session)
    (hub : after.hub = engine.hub) : Settled after := by
  cases settled with
  | ready state idle silent =>
      exact .ready (by rw [session, state]) (by rw [session, idle]) (by rw [hub, silent])
  | watching watch state installed current distinct listeners =>
      exact .watching watch (by rw [session, state]) (by rw [session, installed])
        (by rw [session, current]) distinct (by rw [hub, listeners])

theorem Settled.state_ne_running (settled : Settled engine) :
    engine.session.state ≠ .running := by
  cases settled with
  | ready state => simp [state]
  | watching watch state => simp [state]

theorem Settled.state_eq (settled : Settled engine) :
    engine.session.state = if engine.session.isWatching then .watching else .ready := by
  cases settled with
  | ready state idle => simp [state, Session.isWatching, idle]
  | watching watch state installed => simp [state, Session.isWatching, installed]

theorem stopWatch_of_watch (installed : engine.session.watch = some watch) :
    engine.stopWatch =
      (enter
        { engine with
          session := ⟨engine.session.state, engine.session.generation + 1, none⟩
          hub := (engine.hub.unsubscribe watch.change).unsubscribe watch.lifecycle } .ready,
        true) := by
  simp [stopWatch, installed, Session.withoutWatch]

theorem stopWatch_of_idle (idle : engine.session.watch = none) :
    engine.stopWatch = (engine, false) := by
  simp [stopWatch, idle]

/-- Leaving a watch gives back both listeners and leaves none. -/
theorem Settled.stopWatch (settled : Settled engine) :
    engine.stopWatch.1.session.state = .ready ∧ engine.stopWatch.1.session.watch = none ∧
      engine.stopWatch.1.hub.listeners = [] := by
  cases settled with
  | ready state idle silent =>
      rw [stopWatch_of_idle idle]
      exact ⟨state, idle, silent⟩
  | watching watch state installed current distinct listeners =>
      rw [stopWatch_of_watch installed]
      refine ⟨rfl, rfl, ?_⟩
      simp [enter, Hub.unsubscribe, listeners]

theorem settled_stopWatch (settled : Settled engine) : Settled engine.stopWatch.1 :=
  .ready settled.stopWatch.1 settled.stopWatch.2.1 settled.stopWatch.2.2

theorem settled_installWatch (document : Document) (content : FetchedContent) (page : Page)
    (output : Output) (silent : engine.hub.listeners = []) :
    Settled (engine.installWatch document content page output) := by
  refine .watching _ rfl rfl rfl ?_ ?_
  · simp
  · simp [installWatch, enter, Hub.subscribe, silent]

theorem settled_openWatch (setup : Setup Page) (settled : Settled engine) (given : Option Link) :
    Settled (engine.openWatch setup given).1 := by
  obtain ⟨workspace, journal, fetches, loads, before, left, unopened | opened⟩ :=
    openWatch_cases setup engine given settled.state_ne_running
  · rw [unopened.1, left]
    exact (settled_stopWatch settled).of_same rfl rfl
  · obtain ⟨document, link, content, page, output, opening⟩ := opened
    rw [opening]
    refine settled_installWatch document content page output ?_
    rw [left]
    exact settled.stopWatch.2.2

theorem settled_beginEvaluation (settled : Settled engine) (changedLine : Nat) :
    Settled (engine.beginEvaluation changedLine).1 := by
  cases settled with
  | ready state idle silent =>
      have none : engine.beginEvaluation changedLine = (engine, none) := by
        simp [beginEvaluation, Session.issueTicket, idle]
      rw [none]
      exact .ready state idle silent
  | watching watch state installed current distinct listeners =>
      have issued : (engine.beginEvaluation changedLine).1 =
          { engine with
            session :=
              { engine.session with watch := some { watch with revision := watch.revision + 1 } } } := by
        simp [beginEvaluation, Session.issueTicket, installed]
      rw [issued]
      exact .watching _ state rfl current distinct listeners

theorem settled_stopIfOutputClosed (settled : Settled engine) :
    Settled engine.stopIfOutputClosed.1 := by
  simp only [stopIfOutputClosed]
  split
  · exact settled
  · split
    · exact settled
    · exact (settled_stopWatch settled).of_same rfl rfl

theorem dispatch_of_idle (idle : engine.session.watch = none) (event : EditorEvent) :
    engine.dispatch event = (engine, none, false) := by
  simp [dispatch, idle]

theorem Settled.listeners (settled : Settled engine)
    (installed : engine.session.watch = some watch) :
    engine.hub.listeners =
      [(watch.change, .changesOf watch.document), (watch.lifecycle, .lifecycle)] := by
  cases settled with
  | ready state idle => simp [idle] at installed
  | watching other state known current distinct listeners =>
      cases known.symm.trans installed
      exact listeners

theorem Settled.distinct (settled : Settled engine)
    (installed : engine.session.watch = some watch) : watch.change ≠ watch.lifecycle := by
  cases settled with
  | ready state idle => simp [idle] at installed
  | watching other state known current distinct listeners =>
      cases known.symm.trans installed
      exact distinct

/-- A change reaches the change listener alone, and only if it is one of the watched document. -/
theorem Settled.dispatch_changed (settled : Settled engine)
    (installed : engine.session.watch = some watch) (document : DocumentId)
    (changes : List TextChange) :
    engine.dispatch (.changed document changes) =
      if document = watch.document then
        ((engine.beginEvaluation ((EditorEvent.changed document changes).changedLine?.getD 0)).1,
          (engine.beginEvaluation ((EditorEvent.changed document changes).changedLine?.getD 0)).2,
          false)
      else (engine, none, false) := by
  have routed : engine.hub.route (.changed document changes) =
      if document = watch.document then [watch.change] else [] := by
    by_cases same : document = watch.document
    · simp [Hub.route, settled.listeners installed, Interest.covers, Interest.changesOf,
        Interest.lifecycle, EditorEvent.kind, EditorEvent.document?, same]
    · simp [Hub.route, settled.listeners installed, Interest.covers, Interest.changesOf,
        Interest.lifecycle, EditorEvent.kind, EditorEvent.document?, same]
  have distinct := settled.distinct installed
  by_cases same : document = watch.document
  · subst same
    rw [if_pos rfl] at routed
    simp [dispatch, installed, routed, Ne.symm distinct]
  · rw [if_neg same] at routed
    simp [dispatch, installed, routed, same]

theorem Settled.dispatch_lifecycle (settled : Settled engine)
    (installed : engine.session.watch = some watch) {event : EditorEvent}
    (kind : event.kind = .lifecycle) :
    engine.dispatch event = (engine.stopIfOutputClosed.1, none, engine.stopIfOutputClosed.2) := by
  have routed : engine.hub.route event = [watch.lifecycle] := by
    simp [Hub.route, settled.listeners installed, Interest.covers, Interest.changesOf,
      Interest.lifecycle, kind]
  have distinct := settled.distinct installed
  simp [dispatch, installed, routed, distinct]

theorem settled_dispatch (settled : Settled engine) (event : EditorEvent) :
    Settled (engine.dispatch event).1 := by
  cases installed : engine.session.watch with
  | none =>
      rw [dispatch_of_idle installed]
      exact settled
  | some watch =>
      cases event with
      | changed document changes =>
          rw [settled.dispatch_changed installed]
          split
          · exact settled_beginEvaluation settled _
          · exact settled
      | _ =>
          rw [settled.dispatch_lifecycle installed rfl]
          exact settled_stopIfOutputClosed settled

theorem settled_accept (settled : Settled engine) (event : EditorEvent) :
    Settled (engine.accept setup event).1 := by
  have checked : Settled (engine.checkChange setup event).1 := by
    obtain ⟨diagnostics, frame⟩ := checkChange_frame setup engine event
    rw [frame]
    exact settled.of_same rfl rfl
  exact settled_dispatch checked event

/-- Every move keeps a settled engine settled, whatever the move meets with. -/
theorem settled_move (setup : Setup Page) (engine : Engine Page) (move : Move)
    (settled : Settled engine) : Settled (engine.move setup move) := by
  cases move with
  | host action => exact settled.of_same rfl rfl
  | activate =>
      obtain ⟨diagnostics, statuses, frame⟩ := activate_frame setup engine
      rw [Engine.move, frame]
      exact settled.of_same rfl rfl
  | refuse reason => exact settled.of_same rfl rfl
  | runSelector link =>
      obtain ⟨session, hub, _⟩ := runSelector_frame setup engine link
      exact settled.of_same session hub
  | openWatch link => exact settled_openWatch setup settled link
  | stopWatch => exact settled_stopWatch settled
  | accept event => exact settled_accept settled event
  | beginEvaluation changedLine => exact settled_beginEvaluation settled changedLine
  | completeEvaluation ticket =>
      obtain ⟨workspace, diagnostics, notices, frame⟩ :=
        completeEvaluation_frame setup engine ticket
      rw [Engine.move, frame]
      exact settled.of_same rfl rfl
  | detectGrammarErrors document =>
      obtain ⟨diagnostics, frame⟩ := detectGrammarErrors_frame setup engine document
      rw [Engine.move, frame]
      exact settled.of_same rfl rfl

theorem settled_performAll (settled : Settled engine) (run : List (Setup Page × Operation)) :
    Settled (engine.performAll run) :=
  performAll_induction settled settled_move run

theorem Settled.startWatch_not_busy (settled : Settled engine) (given : Option Link)
    (state : SessionState) : (engine.startWatch setup given).2 ≠ .error (.busy state) := by
  obtain ⟨_, _, _, _, before, _, unopened | opened⟩ :=
    openWatch_cases setup engine given settled.state_ne_running
  · obtain ⟨_, notOpened, notBusy⟩ := unopened
    simp only [startWatch]
    rcases opening : engine.openWatch setup given with ⟨after, reason | reason | opened⟩
    · rw [opening] at notBusy
      simpa using notBusy state
    · simp
    · exact absurd (by rw [opening]) (notOpened opened)
  · obtain ⟨document, link, content, page, output, opening⟩ := opened
    simp [startWatch, opening]

theorem runOnce_not_busy (setup : Setup Page) (engine : Engine Page) (document : Document)
    (link : Link) (state : SessionState) :
    (engine.runOnce setup document link).2 ≠ .error (.busy state) := by
  simp only [runOnce]
  rcases engine.load setup document link with ⟨loaded, reason | ⟨content, page⟩⟩
  · simp
  · simp only
    split
    · simp only [deliver]
      rcases loaded.openOutput setup document with ⟨opened, reason | output⟩
      · simp
      · rename_i value _
        simp only
        rcases opened.writeOutput output value with ⟨written, reason | done⟩ <;> simp
    · simp
    · simp

/-- Only a session that is not ready turns a run away. -/
theorem runSelector_busy_iff (given : Option Link) (state : SessionState) :
    (engine.runSelector setup given).2 = .error (.busy state) ↔
      engine.session.state = state ∧ state ≠ .ready := by
  simp only [runSelector]
  split
  · rename_i busy
    have notReady : engine.session.state ≠ .ready := by simpa [SessionState.isReady] using busy
    simp only [Except.error.injEq, EngineError.busy.injEq]
    exact ⟨fun same => ⟨same, same ▸ notReady⟩, And.left⟩
  · rename_i notBusy
    have ready : engine.session.state = .ready := by
      simpa [SessionState.isReady] using notBusy
    have refused : ¬ (engine.session.state = state ∧ state ≠ .ready) :=
      fun both => both.2 (both.1.symm.trans ready)
    refine iff_of_false ?_ refused
    rcases engine.prepare setup given with ⟨prepared, reason | ⟨document, link⟩⟩
    · simp
    · have notBusyOnce := runOnce_not_busy setup (prepared.enter .running) document link state
      simp only
      rcases running : (prepared.enter .running).runOnce setup document link with
        ⟨after, reason | output⟩
      · rw [running] at notBusyOnce
        simpa using notBusyOnce
      · simp

/-- After any run, whatever the host has done to the workspace in between, the session waits with
no listener installed or watches with exactly the two listeners of its watch; so a watch can always
be started, and a run is turned away exactly when there is a watch. -/
theorem settled_after_run (workspace : Workspace) (run : List (Setup Page × Operation)) :
    Settled ((new workspace).performAll run) ∧
      (∀ setup given state,
        (((new workspace).performAll run).startWatch setup given).2 ≠ .error (.busy state)) ∧
      ∀ setup given,
        (∃ state, (((new workspace).performAll run).runSelector setup given).2 =
            .error (.busy state)) ↔
          ((new workspace).performAll run).session.isWatching = true := by
  have settled := settled_performAll (settled_new workspace) run
  refine ⟨settled, fun setup given state => settled.startWatch_not_busy given state, ?_⟩
  intro setup given
  simp only [runSelector_busy_iff]
  have state := settled.state_eq
  constructor
  · rintro ⟨busy, same, notReady⟩
    cases watching : ((new workspace).performAll run).session.isWatching with
    | false =>
        rw [watching] at state
        exact absurd (same.symm.trans state) notReady
    | true => rfl
  · intro watching
    rw [watching] at state
    exact ⟨.watching, state, by simp⟩

end LiveSelector.Engine
