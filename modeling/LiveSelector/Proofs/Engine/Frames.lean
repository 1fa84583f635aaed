import LiveSelector.Engine.Operation

namespace LiveSelector

/-! What each step of the engine leaves alone: the engine after it is the engine before with the
listed fields replaced. -/

variable {Page : Type}

theorem Session.state_eq_self {session : Session Page} {state : SessionState}
    (same : session.state = state) : { session with state } = session := by
  cases session
  cases same
  rfl

namespace Engine

variable (setup : Setup Page) (engine : Engine Page)

theorem load_frame (document : Document) (link : Link) :
    ∃ loads, (engine.load setup document link).1 =
      { engine with fetches := engine.fetches + 1, loads } := by
  cases fetched : setup.fetch engine.fetches engine.workspace.disk link document.directory? with
  | error reason => exact ⟨engine.loads, by simp [load, fetched]⟩
  | ok content => exact ⟨engine.loads + 1, by simp [load, fetched]⟩

theorem openOutput_frame (document : Document) :
    ∃ workspace, (engine.openOutput setup document).1 = { engine with workspace } := by
  simp only [openOutput]
  cases engine.workspace.openDocument (document.outputPath setup.config.outputSuffix) with
  | mk workspace result =>
      cases result with
      | error reason => exact ⟨workspace, rfl⟩
      | ok id =>
          simp only
          split
          · exact ⟨workspace, rfl⟩
          · cases workspace.showBeside id with
            | error reason => exact ⟨workspace, rfl⟩
            | ok shown => exact ⟨shown, rfl⟩

/-- Preparing a run or a watch only talks to the user. -/
theorem prepare_frame (link : Option Link) :
    ∃ notices prompts, (engine.prepare setup link).1 =
      { engine with journal := { engine.journal with notices, prompts } } := by
  simp only [prepare]
  cases engine.workspace.activeDocument? with
  | none => exact ⟨_, _, rfl⟩
  | some document =>
      simp only
      split
      · exact ⟨_, _, rfl⟩
      · cases link with
        | some link => exact ⟨_, _, rfl⟩
        | none =>
            cases Link.choose document.text.toList setup.config.linkScanLimit
                (setup.pick engine.journal.prompts.length) with
            | mk choice prompt => cases choice <;> exact ⟨_, _, rfl⟩

theorem deliver_frame (document : Document) (value : Json) :
    ∃ workspace, (engine.deliver setup document value).1 = { engine with workspace } := by
  simp only [deliver]
  obtain ⟨workspace, after⟩ := openOutput_frame setup engine document
  cases opening : engine.openOutput setup document with
  | mk opened result =>
      rw [opening] at after
      subst after
      cases result with
      | error reason => exact ⟨workspace, rfl⟩
      | ok output =>
          cases writing : workspace.replaceAll output.id value.render with
          | mk written result => cases result <;> exact ⟨written, by simp [writeOutput, writing]⟩

theorem runOnce_frame (document : Document) (link : Link) :
    ∃ workspace fetches loads, (engine.runOnce setup document link).1 =
      { engine with workspace, fetches, loads } := by
  simp only [runOnce]
  obtain ⟨loads, after⟩ := load_frame setup engine document link
  cases loading : engine.load setup document link with
  | mk loaded result =>
      rw [loading] at after
      subst after
      rcases result with reason | ⟨content, page⟩
      · exact ⟨_, _, _, rfl⟩
      · simp only
        split
        · rename_i value _
          obtain ⟨workspace, after⟩ := deliver_frame setup
            { engine with fetches := engine.fetches + 1, loads } document value
          exact ⟨workspace, _, _, after⟩
        · exact ⟨_, _, _, rfl⟩
        · exact ⟨_, _, _, rfl⟩

/-- A run leaves session, hub and diagnostics as they were, also when it fails. -/
theorem runSelector_frame (link : Option Link) :
    (engine.runSelector setup link).1.session = engine.session ∧
      (engine.runSelector setup link).1.hub = engine.hub ∧
      (engine.runSelector setup link).1.diagnostics = engine.diagnostics := by
  simp only [runSelector]
  split
  · exact ⟨rfl, rfl, rfl⟩
  · rename_i notBusy
    have ready : engine.session.state = .ready := by
      simpa [SessionState.isReady] using notBusy
    obtain ⟨notices, prompts, prepared⟩ := prepare_frame setup engine link
    rcases preparing : engine.prepare setup link with ⟨before, reason | ⟨document, link⟩⟩
    · rw [preparing] at prepared
      simp only at prepared ⊢
      rw [prepared]
      exact ⟨rfl, rfl, rfl⟩
    · rw [preparing] at prepared
      obtain ⟨workspace, fetches, loads, ran⟩ :=
        runOnce_frame setup (before.enter .running) document link
      rcases running : (before.enter .running).runOnce setup document link with ⟨after, result⟩
      rw [running] at ran
      simp only at prepared ran
      -- The state that the run enters at its end is the one it came from.
      have session : { after.session with state := .ready } = engine.session := by
        rw [ran, ← Session.state_eq_self ready, prepared]
        rfl
      have hub : after.hub = engine.hub := by
        rw [ran, prepared]
        rfl
      have diagnostics : after.diagnostics = engine.diagnostics := by
        rw [ran, prepared]
        rfl
      simp only [running]
      cases result with
      | error reason => exact ⟨session, hub, diagnostics⟩
      | ok output => exact ⟨session, hub, diagnostics⟩

theorem detectGrammarErrors_frame (document : DocumentId) :
    ∃ diagnostics, (engine.detectGrammarErrors setup document).1 = { engine with diagnostics } := by
  simp only [detectGrammarErrors]
  cases engine.workspace.document? document with
  | none => exact ⟨_, rfl⟩
  | some document =>
      simp only
      split
      · exact ⟨_, rfl⟩
      · split <;> exact ⟨_, rfl⟩

theorem activate_frame :
    ∃ diagnostics statuses, (engine.activate setup).1 =
      { engine with diagnostics, journal := { engine.journal with statuses } } := by
  unfold activate
  simp only
  split
  · exact ⟨_, _, rfl⟩
  · rename_i document _
    obtain ⟨diagnostics, after⟩ :=
      detectGrammarErrors_frame setup (engine.enter engine.session.state) document.id
    exact ⟨diagnostics, _, after⟩

theorem completeEvaluation_frame (ticket : Ticket) :
    ∃ workspace diagnostics notices, (engine.completeEvaluation setup ticket).1 =
      { engine with
        workspace
        diagnostics
        journal := { engine.journal with notices } } := by
  simp only [completeEvaluation]
  cases engine.session.checkTicket ticket with
  | error reason => exact ⟨_, _, _, rfl⟩
  | ok watch =>
      simp only
      cases engine.workspace.document? watch.document with
      | none => exact ⟨_, _, _, rfl⟩
      | some document =>
          simp only [evaluate]
          split
          · simp only [writeResult]
            rename_i value _
            cases writing : engine.workspace.replaceAll watch.output.id value.render with
            | mk written result =>
                simp only [writeOutput, writing]
                cases result with
                | error reason => exact ⟨written, _, _, rfl⟩
                | ok done => exact ⟨written, _, _, rfl⟩
          · exact ⟨_, _, _, rfl⟩
          · exact ⟨_, _, _, rfl⟩

section

variable {setup engine}

theorem completeEvaluation_session (ticket : Ticket) :
    (engine.completeEvaluation setup ticket).1.session = engine.session := by
  obtain ⟨_, _, _, frame⟩ := completeEvaluation_frame setup engine ticket
  rw [frame]

theorem finish_session (handled : HandledEvent) (pending : Option Ticket) :
    (engine.finish setup handled pending).1.session = engine.session := by
  cases pending with
  | none => rfl
  | some ticket => exact completeEvaluation_session ticket

theorem finishAll_session (setup : Setup Page) (engine : Engine Page)
    (entries : List (HandledEvent × Option Ticket)) :
    (engine.finishAll setup entries).1.session = engine.session := by
  induction entries generalizing engine with
  | nil => rfl
  | cons entry rest ih => exact (ih _).trans (finish_session entry.1 entry.2)

end

theorem beginEvaluation_frame (changedLine : Nat) :
    ∃ session, (engine.beginEvaluation changedLine).1 = { engine with session } := by
  simp only [beginEvaluation]
  split <;> exact ⟨_, rfl⟩

theorem stopWatch_frame :
    ∃ hub session journal, engine.stopWatch.1 = { engine with hub, session, journal } := by
  simp only [stopWatch]
  split <;> exact ⟨_, _, _, rfl⟩

theorem stopIfOutputClosed_frame :
    ∃ hub session journal, engine.stopIfOutputClosed.1 = { engine with hub, session, journal } := by
  simp only [stopIfOutputClosed]
  split
  · exact ⟨_, _, _, rfl⟩
  · split
    · exact ⟨_, _, _, rfl⟩
    · obtain ⟨hub, session, journal, left⟩ := stopWatch_frame engine
      rw [left]
      exact ⟨_, _, _, rfl⟩

theorem dispatch_frame (event : EditorEvent) :
    ∃ hub session journal, (engine.dispatch event).1 = { engine with hub, session, journal } := by
  simp only [dispatch]
  split
  · exact ⟨_, _, _, rfl⟩
  · rename_i watch _
    obtain ⟨issued, begun⟩ := beginEvaluation_frame engine (event.changedLine?.getD 0)
    simp only
    split
    · split
      · obtain ⟨hub, session, journal, stopped⟩ := stopIfOutputClosed_frame
          (engine.beginEvaluation (event.changedLine?.getD 0)).1
        rw [stopped, begun]
        exact ⟨_, _, _, rfl⟩
      · exact stopIfOutputClosed_frame engine
    · split
      · rw [begun]
        exact ⟨_, _, _, rfl⟩
      · exact ⟨_, _, _, rfl⟩

theorem checkChange_frame (event : EditorEvent) :
    ∃ diagnostics, (engine.checkChange setup event).1 = { engine with diagnostics } := by
  cases event with
  | changed document changes => exact detectGrammarErrors_frame setup engine document
  | _ => exact ⟨_, rfl⟩

theorem accept_frame (event : EditorEvent) :
    ∃ hub diagnostics session journal, (engine.accept setup event).1 =
      { engine with hub, diagnostics, session, journal } := by
  obtain ⟨diagnostics, checked⟩ := checkChange_frame setup engine event
  obtain ⟨hub, session, journal, routed⟩ :=
    dispatch_frame (engine.checkChange setup event).1 event
  refine ⟨hub, diagnostics, session, journal, ?_⟩
  have taken : (engine.accept setup event).1 =
      ((engine.checkChange setup event).1.dispatch event).1 := rfl
  rw [taken, routed, checked]

/-- Whatever becomes of the opening of a watch, the old watch is left first; a new one is installed
if and only if the opening says so. -/
theorem openWatch_cases (given : Option Link) (idle : engine.session.state ≠ .running) :
    ∃ workspace journal fetches loads before,
      before = { engine.stopWatch.1 with workspace, journal, fetches, loads } ∧
      (((engine.openWatch setup given).1 = before ∧
          (∀ opened, (engine.openWatch setup given).2 ≠ .ok (.ok opened)) ∧
          ∀ state, (engine.openWatch setup given).2 ≠ .error (.busy state)) ∨
        ∃ document link content page output,
          engine.openWatch setup given =
            (before.installWatch document content page output,
              .ok (.ok ⟨document.id, link, output⟩))) := by
  simp only [openWatch]
  rw [if_neg idle]
  generalize engine.stopWatch.1 = left
  obtain ⟨notices, prompts, prepared⟩ := prepare_frame setup left given
  rcases preparing : left.prepare setup given with ⟨ready, reason | ⟨document, link⟩⟩
  · rw [preparing] at prepared
    exact ⟨_, _, _, _, _, rfl, .inl ⟨prepared, by simp, by simp⟩⟩
  · rw [preparing] at prepared
    simp only at prepared ⊢
    obtain ⟨loads, fetched⟩ := load_frame setup ready document link
    rcases loading : ready.load setup document link with ⟨loaded, reason | ⟨content, page⟩⟩
    · rw [loading] at fetched
      simp only at fetched ⊢
      refine ⟨left.workspace, (loaded.report (.fetch reason)).journal, loaded.fetches,
        loaded.loads, _, ?_, .inl ⟨rfl, by simp, by simp⟩⟩
      rw [fetched, prepared]
      rfl
    · rw [loading] at fetched
      simp only at fetched ⊢
      obtain ⟨workspace, shown⟩ := openOutput_frame setup loaded document
      rcases opening : loaded.openOutput setup document with ⟨opened, reason | output⟩
      · rw [opening] at shown
        simp only at shown ⊢
        refine ⟨workspace, (opened.report (.workspace reason)).journal, opened.fetches,
          opened.loads, _, ?_, .inl ⟨rfl, by simp, by simp⟩⟩
        rw [shown, fetched, prepared]
        rfl
      · rw [opening] at shown
        simp only at shown ⊢
        refine ⟨opened.workspace, opened.journal, opened.fetches, opened.loads, opened, ?_,
          .inr ⟨document, link, content, page, output, rfl⟩⟩
        rw [shown, fetched, prepared]

end Engine

end LiveSelector
