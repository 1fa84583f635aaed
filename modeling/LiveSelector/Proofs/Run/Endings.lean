import LiveSelector.Proofs.Journal.Trails
import LiveSelector.Proofs.Output.Delivery
import LiveSelector.Proofs.Output.LastWritten

namespace LiveSelector

/-! How a run ends.  A run that ends before it comes to its output has changed nothing but what the
user has been told; one that cannot deliver its value has at most made directories; and one that is
completed has done what it is for, and nothing else. -/

variable {Page : Type} {setup : Setup Page} {engine after : Engine Page} {document : Document}
variable {given : Option Link} {link : Link} {output : Output} {reason : EngineError}
variable {answer : Except EngineError RunReport}

/-- Whether a failure is one that keeps a run from its output. -/
def EngineError.precedesOutput : EngineError → Bool
  | .busy _ | .fetch _ | .syntaxFault _ | .evaluation _ => true
  | .workspace _ | .invalidLink _ _ => false

theorem SelectorEngine.evaluate_of_success {selector : SelectorEngine Page} {page : Page}
    {text : String} {value : Json} (succeeded : selector.outcome page text = .success value) :
    selector.evaluate page text = .ok value := by
  simp only [outcome] at succeeded
  split at succeeded
  · cases succeeded
    assumption
  · split at succeeded <;> cases succeeded

namespace Engine

/-- Whether a run has ended before it came to its output. -/
def endsEarly : Except EngineError RunReport → Bool
  | .error reason => reason.precedesOutput
  | .ok (.skipped _) => true
  | .ok (.completed _) => false

/-- What a run or a watch is to work on: the document in focus, a selector, and the link that is
given or, if none is, the one that its links and the user come to. -/
structure Uses (setup : Setup Page) (engine : Engine Page) (given : Option Link)
    (document : Document) (link : Link) : Prop where
  focused : engine.workspace.activeDocument? = some document
  selector : document.languageId = setup.config.languageId
  chosen : given = some link ∨ given = none ∧
    (Link.choose document.text.toList setup.config.linkScanLimit
      (setup.pick engine.journal.prompts.length)).1 = .resolved link

theorem prepare_keeps {result : Except SkipReason (Document × Link)}
    (prepared : engine.prepare setup given = (after, result)) :
    after.workspace = engine.workspace ∧ after.session = engine.session ∧
      after.fetches = engine.fetches := by
  obtain ⟨notices, prompts, frame⟩ := prepare_frame setup engine given
  rw [prepared] at frame
  cases frame
  exact ⟨rfl, rfl, rfl⟩

theorem load_keeps {result : Except FetchError (FetchedContent × Page)}
    (loaded : engine.load setup document link = (after, result)) :
    after.workspace = engine.workspace ∧ after.session = engine.session := by
  obtain ⟨loads, frame⟩ := load_frame setup engine document link
  rw [loaded] at frame
  cases frame
  exact ⟨rfl, rfl⟩

theorem prepare_uses (prepared : engine.prepare setup given = (after, .ok (document, link))) :
    Uses setup engine given document link := by
  obtain ⟨focused, selector⟩ := prepare_document prepared
  refine ⟨focused, selector, ?_⟩
  simp only [prepare, focused, selector, ne_eq, not_true_eq_false, if_false] at prepared
  cases given with
  | some link =>
      cases prepared
      exact .inl rfl
  | none =>
      right
      rcases choice : Link.choose document.text.toList setup.config.linkScanLimit
        (setup.pick engine.journal.prompts.length) with ⟨found | _ | _, prompt⟩
      · simp only [choice] at prepared
        cases prepared
        exact ⟨rfl, rfl⟩
      · simp [choice] at prepared
      · simp [choice] at prepared

/-- The page that a link leads to has been fetched, and a document has a value on it. -/
structure Yields (setup : Setup Page) (engine : Engine Page) (document : Document) (link : Link)
    (content : FetchedContent) (value : Json) : Prop where
  fetched : setup.fetch engine.fetches engine.workspace.disk link document.directory? = .ok content
  evaluated : setup.selector.evaluate (setup.selector.load content.html) document.text = .ok value

theorem load_ok {content : FetchedContent} {page : Page}
    (loaded : engine.load setup document link = (after, .ok (content, page))) :
    setup.fetch engine.fetches engine.workspace.disk link document.directory? = .ok content ∧
      page = setup.selector.load content.html := by
  simp only [load] at loaded
  split at loaded
  · cases loaded
  · rename_i found fetched
    cases loaded
    exact ⟨fetched, rfl⟩

theorem runOnce_error (ran : engine.runOnce setup document link = (after, .error reason)) :
    reason.precedesOutput = true ∧ after.workspace = engine.workspace ∨
      (∃ refusal, reason = .workspace refusal) ∧
        ∀ place, after.workspace.disk.file? place = engine.workspace.disk.file? place := by
  have same := load_workspace setup engine document link
  simp only [runOnce] at ran
  rcases loading : engine.load setup document link with ⟨loaded, refusal | ⟨content, page⟩⟩
  · rw [loading] at ran same
    cases ran
    exact .inl ⟨rfl, same⟩
  · rw [loading] at ran same
    simp only at ran same
    cases outcome : setup.selector.outcome page document.text with
    | success value =>
        simp only [outcome] at ran
        obtain ⟨unwritten, files⟩ := deliver_error ran
        exact .inr ⟨unwritten, fun place => by rw [files, same]⟩
    | syntaxFailure message place =>
        simp only [outcome] at ran
        cases ran
        exact .inl ⟨rfl, same⟩
    | runtimeFailure message place =>
        simp only [outcome] at ran
        cases ran
        exact .inl ⟨rfl, same⟩

theorem runOnce_ok (ran : engine.runOnce setup document link = (after, .ok output)) :
    ∃ (content : FetchedContent) (value : Json) (loaded : Engine Page),
      Yields setup engine document link content value ∧
      loaded.workspace = engine.workspace ∧
      loaded.deliver setup document value = (after, .ok output) := by
  have same := load_workspace setup engine document link
  simp only [runOnce] at ran
  rcases loading : engine.load setup document link with ⟨loaded, refusal | ⟨content, page⟩⟩
  · simp [loading] at ran
  · rw [loading] at ran same
    obtain ⟨fetched, rfl⟩ := load_ok loading
    simp only at ran same
    cases outcome : setup.selector.outcome (setup.selector.load content.html) document.text with
    | success value =>
        simp only [outcome] at ran
        have evaluated := SelectorEngine.evaluate_of_success outcome
        exact ⟨content, value, loaded, ⟨fetched, evaluated⟩, same, ran⟩
    | syntaxFailure message place => simp [outcome] at ran
    | runtimeFailure message place => simp [outcome] at ran

/-- A run is turned away, or it is prepared and then goes on to evaluate its document once. -/
theorem runSelector_cases (ran : engine.runSelector setup given = (after, answer)) :
    endsEarly answer = true ∧ after.workspace = engine.workspace ∨
      engine.session.state = .ready ∧ ∃ before document link ended result,
        engine.prepare setup given = (before, .ok (document, link)) ∧
        (before.enter .running).runOnce setup document link = (ended, result) ∧
        answer = result.map .completed ∧ after.workspace = ended.workspace := by
  simp only [runSelector] at ran
  split at ran
  · cases ran
    exact .inl ⟨rfl, rfl⟩
  · rename_i notBusy
    have ready : engine.session.state = .ready := by
      simpa [SessionState.isReady] using notBusy
    have same := prepare_workspace setup engine given
    rcases preparing : engine.prepare setup given with ⟨before, reason | ⟨document, link⟩⟩
    · rw [preparing] at ran same
      cases ran
      exact .inl ⟨rfl, same⟩
    · refine .inr ⟨ready, ?_⟩
      rw [preparing] at ran
      simp only at ran
      rcases running : (before.enter .running).runOnce setup document link with
        ⟨ended, reason | output⟩
      · rw [running] at ran
        cases ran
        exact ⟨before, document, link, ended, .error reason, rfl, running, rfl, rfl⟩
      · rw [running] at ran
        cases ran
        exact ⟨before, document, link, ended, .ok output, rfl, running, rfl, rfl⟩

theorem runSelector_incomplete (ran : engine.runSelector setup given = (after, answer)) :
    endsEarly answer = true ∧ after.workspace = engine.workspace ∨
      (∃ reason, answer = .error (.workspace reason)) ∧ engine.session.state = .ready ∧
        (∀ place, after.workspace.disk.file? place = engine.workspace.disk.file? place) ∨
      ∃ output, answer = .ok (.completed output) := by
  obtain early | ⟨ready, before, document, link, ended, result, prepared, once, rfl, same⟩ :=
    runSelector_cases ran
  · exact .inl early
  · have unchanged := prepare_workspace setup engine given
    rw [prepared] at unchanged
    cases result with
    | ok output => exact .inr (.inr ⟨output, rfl⟩)
    | error reason =>
        rw [same, ← unchanged]
        obtain ⟨early, kept⟩ | ⟨⟨refusal, rfl⟩, files⟩ := runOnce_error once
        · exact .inl ⟨early, kept⟩
        · exact .inr (.inl ⟨⟨refusal, rfl⟩, ready, files⟩)

/-- A failed run leaves nothing behind.  If it ends before it comes to its output, the workspace, the
diagnostics, the hub and the session are as before; if the output cannot be opened or written, all of
these but the workspace are, the state is ready again, and no file has appeared or changed.  There
is no third way to fail. -/
theorem failed_run_leaves_nothing (setup : Setup Page) (engine : Engine Page)
    (given : Option Link) :
    let after := (engine.runSelector setup given).1
    let answer := (engine.runSelector setup given).2
    (endsEarly answer = true →
        after.workspace = engine.workspace ∧ after.diagnostics = engine.diagnostics ∧
          after.hub = engine.hub ∧ after.session = engine.session) ∧
      (∀ reason, answer = .error (.workspace reason) →
        after.diagnostics = engine.diagnostics ∧ after.hub = engine.hub ∧
          after.session = engine.session ∧ after.session.state = .ready ∧
          ∀ place, after.workspace.disk.file? place = engine.workspace.disk.file? place) ∧
      (endsEarly answer = true ∨ (∃ reason, answer = .error (.workspace reason)) ∨
        ∃ output, answer = .ok (.completed output)) := by
  intro after answer
  obtain ⟨session, hub, diagnostics⟩ := runSelector_frame setup engine given
  have ran : engine.runSelector setup given = (after, answer) := rfl
  refine ⟨fun early => ⟨?_, diagnostics, hub, session⟩, fun reason refused => ?_, ?_⟩
  · obtain ⟨_, same⟩ | ⟨⟨reason, refused⟩, _⟩ | ⟨output, done⟩ := runSelector_incomplete ran
    · exact same
    · rw [refused] at early
      contradiction
    · rw [done] at early
      contradiction
  · obtain ⟨early, _⟩ | ⟨_, ready, files⟩ | ⟨output, done⟩ := runSelector_incomplete ran
    · rw [refused] at early
      contradiction
    · exact ⟨diagnostics, hub, session, by rw [session, ready], files⟩
    · rw [refused] at done
      cases done
  · obtain ⟨early, _⟩ | ⟨refused, _⟩ | done := runSelector_incomplete ran
    · exact .inl early
    · exact .inr (.inl refused)
    · exact .inr (.inr done)

/-- A setup in which no page is found. -/
def vacantSetup : Setup Unit :=
  { echoSetup with fetch := fun _ _ link _ => .error ⟨link.target, .status 404⟩ }

/-- A run without its page, and one with a directory where its output is to go. -/
theorem vacant_and_blocked_runs_leave_nothing :
    let engine := (new (.onDisk (sampleDisk.putDirectory (.ofText "s.temme.json")))).performAll
      focusRun
    let vacant := engine.runSelector vacantSetup (some (.bare "page"))
    let blocked := engine.runSelector echoSetup (some (.bare "page"))
    vacant.2 = .error (.fetch ⟨"page", .status 404⟩) ∧
      vacant.1.workspace = engine.workspace ∧
      blocked.2 = .error (.workspace (.cannotOpen (.ofText "s.temme.json") .isDirectory)) ∧
      blocked.1.session = engine.session ∧
      ∀ place, blocked.1.workspace.disk.file? place = engine.workspace.disk.file? place := by
  intro engine vacant blocked
  have unfetched : vacant.2 = .error (.fetch ⟨"page", .status 404⟩) := by rfl
  have refused : blocked.2 =
      .error (.workspace (.cannotOpen (.ofText "s.temme.json") .isDirectory)) := by rfl
  obtain ⟨early, _⟩ :=
    failed_run_leaves_nothing vacantSetup engine (some (.bare "page"))
  obtain ⟨_, late, _⟩ :=
    failed_run_leaves_nothing echoSetup engine (some (.bare "page"))
  obtain ⟨_, _, session, _, files⟩ := late _ refused
  exact ⟨unfetched, (early (by rw [unfetched]; rfl)).1, refused, session, files⟩

end Engine

end LiveSelector
