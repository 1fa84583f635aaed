import LiveSelector.Proofs.Run.Endings
import LiveSelector.Proofs.Session.Fetches
import LiveSelector.Proofs.Session.Tickets

namespace LiveSelector

/-! The start of a watch, all or nothing.  What was watched before is left in any case.  After that a
watch is installed with its listeners, its output and its first evaluation, or the session waits,
and then nothing has changed before the output was to be opened. -/

variable {Page : Type} {setup : Setup Page} {engine before after : Engine Page}
variable {document : Document} {given : Option Link} {link : Link} {content : FetchedContent}
variable {output : Output} {watch : Watch Page}
variable {result : Except EngineError (Except SkipReason OpenedWatch)}

/-- A fetcher gives back the very link that it was asked for. -/
def Setup.Faithful (setup : Setup Page) : Prop :=
  ∀ number disk link base content,
    setup.fetch number disk link base = .ok content → content.link = link

/-- What the evaluation of a document on a page comes to: its report, and the workspace after it. -/
inductive Reports (setup : Setup Page) (page : Page) (document : Document) (changedLine : Nat)
    (output : Output) (before : Workspace) : Workspace → EvaluationReport → Prop where
  | written {after : Workspace} {value : Json}
      (evaluated : setup.selector.evaluate page document.text = .ok value)
      (replaced : before.replaceAll output.id value.render = (after, .ok ())) :
      Reports setup page document changedLine output before after .written
  | unwritten {after : Workspace} {value : Json} {reason : WorkspaceError}
      (evaluated : setup.selector.evaluate page document.text = .ok value)
      (refused : before.replaceAll output.id value.render = (after, .error reason)) :
      Reports setup page document changedLine output before after (.outputFailed reason.message)
  | suppressed {fault : Fault}
      (evaluated : setup.selector.evaluate page document.text = .error fault)
      (faulty : fault.isSyntax = true) :
      Reports setup page document changedLine output before before .syntaxSuppressed
  | failed {fault : Fault}
      (evaluated : setup.selector.evaluate page document.text = .error fault)
      (sound : fault.isSyntax = false) :
      Reports setup page document changedLine output before before
        (.failed (document.clampLine changedLine) fault.normalize.message)

namespace Engine

theorem effectOf_reports (setup : Setup Page) {workspace : Workspace}
    (found : workspace.document? watch.document = some document) (changedLine : Nat) :
    Reports setup watch.page document changedLine watch.output workspace
      (effectOf setup workspace watch changedLine).workspace
      (effectOf setup workspace watch changedLine).report := by
  cases evaluated : setup.selector.evaluate watch.page document.text with
  | ok value =>
      rcases replaced : workspace.replaceAll watch.output.id value.render with
        ⟨after, reason | done⟩
      · simp only [effectOf, found, evaluated, replaced]
        exact .unwritten evaluated replaced
      · simp only [effectOf, found, evaluated, replaced]
        exact .written evaluated replaced
  | error fault =>
      cases faulty : fault.isSyntax with
      | true =>
          simp only [effectOf, found, evaluated, faulty, if_true]
          exact .suppressed evaluated faulty
      | false =>
          simp only [effectOf, found, evaluated, faulty, Bool.false_eq_true, if_false]
          exact .failed evaluated faulty

/-- The first evaluation is done with the first ticket of a watch. -/
theorem evaluateFirst_effect (installed : engine.session.watch = some watch) :
    engine.evaluateFirst setup =
      (({ engine with
            session :=
              { engine.session with
                watch := some { watch with revision := watch.revision + 1 } } } :
          Engine Page).absorb watch.document (effectOf setup engine.workspace watch 0),
        (effectOf setup engine.workspace watch 0).report) := by
  have accepted : ({ engine.session with
      watch := some { watch with revision := watch.revision + 1 } } :
        Session Page).checkTicket ⟨watch.generation, watch.revision + 1, 0⟩ =
      .ok { watch with revision := watch.revision + 1 } := by
    simp [Session.checkTicket]
  simp only [evaluateFirst, beginEvaluation, Session.issueTicket, installed, Option.map_some]
  rw [completeEvaluation_effect accepted]
  simp only [effectOf_revision]

theorem stopWatch_generation_le (engine : Engine Page) :
    engine.session.generation ≤ engine.stopWatch.1.session.generation :=
  lives_stopWatch.generation_le

theorem stopWatch_generation_lt (coherent : Session.Coherent engine.session)
    (installed : engine.session.watch = some watch) :
    watch.generation < engine.stopWatch.1.session.generation := by
  rw [coherent watch installed, stopWatch_of_watch installed]
  exact Nat.lt_succ_self _

/-- How the opening of a watch ends.  Before the output is to be opened nothing in the workspace has
changed, and where it cannot be opened no file has. -/
def OpeningEnds (setup : Setup Page) (before : Engine Page) (given : Option Link)
    (after : Engine Page) : Except EngineError (Except SkipReason OpenedWatch) → Prop
  | .ok (.error _) | .error (.fetch _) => after.workspace = before.workspace
  | .error (.workspace _) =>
    ∀ place, after.workspace.disk.file? place = before.workspace.disk.file? place
  | .error _ => False
  | .ok (.ok opened) =>
    ∃ (document : Document) (content : FetchedContent) (loaded shown : Engine Page),
      Uses setup before given document opened.link ∧
      setup.fetch before.fetches before.workspace.disk opened.link document.directory? =
        .ok content ∧
      loaded.workspace = before.workspace ∧
      loaded.openOutput setup document = (shown, .ok opened.output) ∧
      shown.session = before.stopWatch.1.session ∧ opened.document = document.id ∧
      after =
        shown.installWatch document content (setup.selector.load content.html) opened.output

theorem openWatch_ends (idle : engine.session.state ≠ .running)
    (opening : engine.openWatch setup given = (after, result)) :
    OpeningEnds setup engine given after result := by
  simp only [openWatch, if_neg idle] at opening
  rcases preparing : engine.stopWatch.1.prepare setup given with ⟨ready, reason | ⟨document, link⟩⟩
  · obtain ⟨same, _, _⟩ := prepare_keeps preparing
    rw [preparing] at opening
    cases opening
    exact same.trans stopWatch_workspace
  · obtain ⟨prepared, session, fetches⟩ := prepare_keeps preparing
    rw [stopWatch_workspace] at prepared
    rw [stopWatch_counts.1] at fetches
    have answered := prepare_stopWatch setup engine given
    rw [preparing] at answered
    have uses := prepare_uses (Prod.ext rfl answered.symm)
    rw [preparing] at opening
    simp only at opening
    rcases loading : ready.load setup document link with ⟨loaded, reason | ⟨content, page⟩⟩
    · obtain ⟨same, _⟩ := load_keeps loading
      rw [loading] at opening
      cases opening
      exact same.trans prepared
    · obtain ⟨same, kept⟩ := load_keeps loading
      obtain ⟨fetched, rfl⟩ := load_ok loading
      rw [prepared] at same
      rw [session] at kept
      rw [fetches, prepared] at fetched
      rw [loading] at opening
      simp only at opening
      rcases showing : loaded.openOutput setup document with ⟨shown, reason | output⟩
      · rw [showing] at opening
        cases opening
        intro place
        have files := openOutput_error_file? showing place
        rw [same] at files
        exact files
      · rw [showing] at opening
        cases opening
        obtain ⟨_, framed⟩ := openOutput_frame setup loaded document
        rw [showing] at framed
        simp only at framed
        exact ⟨document, content, loaded, shown, uses, fetched, same, showing, by rw [framed, kept],
          rfl, rfl⟩

/-- A watch is installed on the document that was in focus, with all that belongs to it, and that
document has been evaluated for it. -/
structure Starts (setup : Setup Page) (before : Engine Page) (given : Option Link)
    (document : Document) (link : Link) (content : FetchedContent) (output : Output)
    (initial : EvaluationReport) (watch : Watch Page) (after : Engine Page) : Prop where
  uses : Uses setup before given document link
  fetched : setup.fetch before.fetches before.workspace.disk link document.directory? = .ok content
  artifact : output = ⟨(document.outputPath setup.config.outputSuffix).documentId,
    document.outputPath setup.config.outputSuffix⟩
  watching : after.session.state = .watching
  installed : after.session.watch = some watch
  watched : watch.document = document.id
  linked : watch.link = content.link
  loaded : watch.page = setup.selector.load content.html
  writes : watch.output = output
  newer : before.session.generation < watch.generation
  revision : watch.revision = 1
  listeners : after.hub.listeners =
    [(watch.change, .changesOf document.id), (watch.lifecycle, .lifecycle)]
  isOpen : after.workspace.isOpen output.id = true
  isVisible : after.workspace.isVisible output.id = true
  /-- The output is opened and shown, and then the text in focus is evaluated. -/
  evaluated : ∃ opened shown, before.workspace.openDocument output.path = (opened, .ok output.id) ∧
    opened.showBeside output.id = .ok shown ∧
    Reports setup watch.page document 0 output shown after.workspace initial

/-- Nothing is watched, and what was watched before has been given back. -/
structure Released (before after : Engine Page) : Prop where
  ready : after.session.state = .ready
  idle : after.session.watch = none
  silent : after.hub.listeners = []
  retired : ∀ watch, before.session.watch = some watch →
    watch.generation < after.session.generation

theorem released_unopened (settled : Settled engine) (coherent : Session.Coherent engine.session)
    (opening : engine.openWatch setup given = (after, result))
    (unopened : ∀ opened, result ≠ .ok (.ok opened)) :
    Released engine after ∧ after.diagnostics = engine.diagnostics := by
  obtain ⟨workspace, journal, fetches, loads, base, left, stopped | opened⟩ :=
    openWatch_cases setup engine given settled.state_ne_running
  · obtain ⟨same, _, _⟩ := stopped
    rw [opening, left] at same
    simp only at same
    obtain ⟨state, idle, silent⟩ := settled.stopWatch
    obtain ⟨hub, session, told, frame⟩ := stopWatch_frame engine
    refine ⟨⟨?_, ?_, ?_, fun watch installed => ?_⟩, ?_⟩
    · rw [same]
      exact state
    · rw [same]
      exact idle
    · rw [same]
      exact silent
    · rw [same]
      exact stopWatch_generation_lt coherent installed
    · rw [same, frame]
  · obtain ⟨document, link, content, page, output, begun⟩ := opened
    rw [opening] at begun
    cases begun
    exact absurd rfl (unopened _)

theorem installWatch_watch (engine : Engine Page) (document : Document) (content : FetchedContent)
    (output : Output) (page : Page) :
    ∃ watch, (engine.installWatch document content page output).session.watch = some watch ∧
      watch.document = document.id ∧ watch.link = content.link ∧ watch.page = page ∧
      watch.output = output ∧ watch.generation = engine.session.generation + 1 ∧
      watch.revision = 0 :=
  ⟨_, rfl, rfl, rfl, rfl, rfl, rfl, rfl⟩

theorem starts_opened {opened : OpenedWatch} (settled : Settled engine)
    (opening : engine.openWatch setup given = (before, .ok (.ok opened))) :
    ∃ document content watch, opened.document = document.id ∧
      Starts setup engine given document opened.link content opened.output
        (before.evaluateFirst setup).2 watch (before.evaluateFirst setup).1 := by
  obtain ⟨document, content, base, shown, uses, fetched, same, showing, session, named, installed⟩ :=
    openWatch_ends settled.state_ne_running opening
  have settledBefore : Settled before := by
    have kept := settled_openWatch setup settled given
    rw [opening] at kept
    exact kept
  have focused := openOutput_document? showing
    (by rw [same]; exact Workspace.activeDocument?_open uses.focused)
  obtain ⟨began, opens, shows⟩ := openOutput_ok showing
  rw [same] at opens
  have sight := openOutput_shown showing
  obtain ⟨watch, there, watched, linked, loaded, writes, stamped, fresh⟩ :=
    installWatch_watch shown document content opened.output
      (setup.selector.load content.html)
  rw [← installed] at there
  have listeners := settledBefore.listeners there
  rw [watched] at listeners
  have state : before.session.state = .watching := by rw [installed]; rfl
  have unmoved : before.workspace = shown.workspace := by rw [installed]; rfl
  rw [← unmoved] at focused sight shows
  rw [evaluateFirst_effect there]
  rw [← watched] at focused
  have reports := effectOf_reports setup focused 0
  rw [writes] at reports
  exact ⟨document, content, { watch with revision := watch.revision + 1 }, named,
    { uses
      fetched
      artifact := openOutput_output showing
      watching := state
      installed := rfl
      watched
      linked
      loaded
      writes
      newer := by
        -- The session that the watch is installed in is the one that was left.
        have grown := stopWatch_generation_le engine
        rw [← session] at grown
        simp only [stamped]
        exact Nat.lt_succ_of_le grown
      revision := by simp only [fresh]
      listeners
      -- The evaluation neither closes nor hides what has been opened.
      isOpen := (effectOf_isOpen 0).trans sight.1
      isVisible := (effectOf_isVisible 0).trans sight.2
      evaluated := ⟨began, before.workspace, opens, shows, reports⟩ }⟩

/-- At every moment of a run a watch has a generation that the session has come to since. -/
theorem generation_le_of_moment {workspace : Workspace} {run : List (Setup Page × Operation)}
    {moment : Nat}
    (installed : ((new workspace).moveAll ((new workspace).movesUntil run moment)).session.watch =
      some watch) :
    watch.generation ≤ ((new workspace).performAll run).session.generation := by
  have early := lives_history (new workspace) ((new workspace).movesUntil run moment)
  have late := lives_history ((new workspace).moveAll ((new workspace).movesUntil run moment))
    (((new workspace).movesOfAll run).drop moment)
  rw [← moveAll_append, movesUntil, List.take_append_drop, ← performAll_moves] at late
  rw [early.coherent Session.coherent_new watch installed]
  exact late.generation_le

/-- What the answer to the start of a watch means: either the watch is installed and evaluated, or
nothing is watched, and then nothing has changed before the output was to be opened, and no file has
afterwards. -/
def Fulfils (setup : Setup Page) (before : Engine Page) (given : Option Link)
    (after : Engine Page) : Except EngineError WatchReport → Prop
  | .ok (.started id link output initial) =>
    ∃ document content watch, id = document.id ∧
      Starts setup before given document link content output initial watch after ∧
      (setup.Faithful → watch.link = link)
  | .ok (.skipped _) | .error (.fetch _) =>
    Released before after ∧ after.diagnostics = before.diagnostics ∧
      after.workspace = before.workspace
  | .error _ =>
    Released before after ∧ after.diagnostics = before.diagnostics ∧
      ∀ place, after.workspace.disk.file? place = before.workspace.disk.file? place

/-- The start of a watch installs all or nothing, and a watch that it installs is newer than every
watch there has been at any moment of the run. -/
theorem startWatch_all_or_nothing {workspace : Workspace} {run : List (Setup Page × Operation)}
    {answer : Except EngineError WatchReport}
    (reached : engine = (new workspace).performAll run)
    (ran : engine.startWatch setup given = (after, answer)) :
    Fulfils setup engine given after answer ∧
      ∀ id link output initial, answer = .ok (.started id link output initial) →
        ∀ watch, after.session.watch = some watch → ∀ moment earlier,
          ((new workspace).moveAll ((new workspace).movesUntil run moment)).session.watch =
            some earlier → earlier.generation < watch.generation := by
  have settled : Settled engine := by
    rw [reached]
    exact settled_performAll (settled_new workspace) run
  have coherent : Session.Coherent engine.session := by
    have life := lives_history (new workspace) ((new workspace).movesOfAll run)
    rw [← performAll_moves, ← reached] at life
    exact life.coherent Session.coherent_new
  simp only [startWatch] at ran
  rcases opening : engine.openWatch setup given with ⟨before, reason | reason | opened⟩
  · rw [opening] at ran
    cases ran
    have released := released_unopened settled coherent opening (by simp)
    have ends := openWatch_ends settled.state_ne_running opening
    refine ⟨?_, by simp⟩
    cases reason with
    | fetch reason => exact ⟨released.1, released.2, ends⟩
    | workspace reason => exact ⟨released.1, released.2, ends⟩
    | _ => exact ends.elim
  · rw [opening] at ran
    cases ran
    have released := released_unopened settled coherent opening (by simp)
    have ends := openWatch_ends settled.state_ne_running opening
    exact ⟨⟨released.1, released.2, ends⟩, by simp⟩
  · rw [opening] at ran
    cases ran
    obtain ⟨document, content, watch, named, starts⟩ := starts_opened settled opening
    refine ⟨⟨document, content, watch, named, starts, fun faithful => ?_⟩, ?_⟩
    · rw [starts.linked]
      exact faithful _ _ _ _ _ starts.fetched
    · intro _ _ _ _ _ installed there moment earlier known
      cases starts.installed.symm.trans there
      have bound := generation_le_of_moment known
      rw [← reached] at bound
      exact Nat.lt_of_le_of_lt bound starts.newer

/-- A watch that is started anew, and one that ends because its page is gone when it is to be started
anew. -/
theorem restarted_or_released :
    let engine := (new (.onDisk sampleDisk)).performAll (restartRun.take 4)
    let again := engine.startWatch quietSetup (some (.bare "page"))
    let gone := engine.startWatch vacantSetup (some (.bare "page"))
    let output : Output := ⟨⟨"s.temme.json"⟩, .ofText "s.temme.json"⟩
    (∃ document content watch,
        Starts quietSetup engine (some (.bare "page")) document (.bare "page") content output
          .written watch again.1 ∧
        watch.link = .bare "page") ∧
      Released engine gone.1 ∧ gone.1.workspace = engine.workspace := by
  intro engine again gone output
  have started : engine.startWatch quietSetup (some (.bare "page")) =
      (again.1, .ok (.started ⟨"s.temme"⟩ (.bare "page") output .written)) := by rfl
  have refused : engine.startWatch vacantSetup (some (.bare "page")) =
      (gone.1, .error (.fetch ⟨"page", .status 404⟩)) := by rfl
  obtain ⟨⟨document, content, watch, _, starts, linked⟩, _⟩ := startWatch_all_or_nothing rfl started
  obtain ⟨⟨released, _, same⟩, _⟩ := startWatch_all_or_nothing rfl refused
  have faithful : quietSetup.Faithful := by
    intro number disk link base content fetched
    cases fetched
    rfl
  exact ⟨⟨document, content, watch, starts, linked faithful⟩, released, same⟩

end Engine

end LiveSelector
