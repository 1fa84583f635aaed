import LiveSelector.Proofs.Run.Endings

namespace LiveSelector.Engine

/-! What a completed run has done.  It has put the value of the document in focus into the output's
buffer and file, whether the output is new, out of sight, edited or only on the disk, and apart from
that the user has been shown that the run went on and told that it succeeded. -/

open Workspace (Confined)

variable {Page : Type} {setup : Setup Page} {engine before after : Engine Page}
variable {document : Document} {given : Option Link} {link : Link} {content : FetchedContent}
variable {value : Json} {output : Output}

structure Completes (setup : Setup Page) (before : Engine Page) (document : Document)
    (value : Json) (output : Output) (after : Engine Page) : Prop where
  ready : before.session.state = .ready
  artifact : output = ⟨(document.outputPath setup.config.outputSuffix).documentId,
    document.outputPath setup.config.outputSuffix⟩
  file : after.workspace.disk.readText output.path = .ok value.render
  text : after.workspace.text? output.id = some value.render
  isOpen : after.workspace.isOpen output.id = true
  isVisible : after.workspace.isVisible output.id = true
  focus : after.workspace.activeDocument?.map (·.id) = some document.id
  /-- Every other buffer and file is as before, and nothing has been closed or hidden. -/
  confined : Confined (some output.id) before.workspace after.workspace
  diagnostics : after.diagnostics = before.diagnostics
  hub : after.hub = before.hub
  session : after.session = before.session
  statuses : after.journal.statuses =
    before.journal.statuses ++ [.ofState .running, .ofState .ready]
  notices : after.journal.notices = before.journal.notices ++ [⟨.info, runSucceeded⟩]

theorem isOpen_of_text? {workspace : Workspace} {id : DocumentId} {text : String}
    (held : workspace.text? id = some text) : workspace.isOpen id = true := by
  obtain ⟨buffer, found, _⟩ := Option.map_eq_some_iff.mp held
  rw [Workspace.isOpen, found]
  rfl

/-- What is in focus stays in focus if the focus is not moved and nothing is closed. -/
theorem focus_confined {workspace later : Workspace} {artifact : Option DocumentId}
    (focused : workspace.activeDocument? = some document)
    (confined : Confined artifact workspace later) :
    later.activeDocument?.map (·.id) = some document.id := by
  obtain ⟨id, active, found⟩ := Option.bind_eq_some_iff.mp focused
  obtain ⟨buffer, opened, rfl⟩ := Workspace.document?_buffer found
  have still := confined.stillOpen id (by rw [Workspace.isOpen, opened]; rfl)
  obtain ⟨held, there⟩ := Option.isSome_iff_exists.mp still
  rw [Workspace.activeDocument?, confined.sameFocus, active, Option.bind_some,
    Workspace.document?, there]
  rfl

theorem runSelector_ok (ran : engine.runSelector setup given = (after, .ok (.completed output))) :
    engine.session.state = .ready ∧ ∃ document link content value,
      Uses setup engine given document link ∧ Yields setup engine document link content value ∧
        ∃ loaded ended : Engine Page, loaded.workspace = engine.workspace ∧
          loaded.deliver setup document value = (ended, .ok output) ∧
          after.workspace = ended.workspace := by
  obtain ⟨early, _⟩ | ⟨ready, before, document, link, ended, result, prepared, once, done, same⟩ :=
    runSelector_cases ran
  · contradiction
  · cases result with
    | error reason => cases done
    | ok found =>
        cases done
        obtain ⟨content, value, loaded, yields, unchanged, delivered⟩ := runOnce_ok once
        obtain ⟨kept, _, fetches⟩ := prepare_keeps prepared
        refine ⟨ready, document, link, content, value, prepare_uses prepared, ⟨?_, yields.evaluated⟩,
          loaded, ended, unchanged.trans kept, delivered, same⟩
        -- Preparing has fetched nothing and left the disk alone.
        rw [← fetches, ← kept]
        exact yields.fetched

/-- A completed run has done exactly its job. -/
theorem completed_run_exact {disk : Disk} {run : List (Setup Page × Operation)}
    (reached : engine = (new (.onDisk disk)).performAll run)
    (ran : engine.runSelector setup given = (after, .ok (.completed output))) :
    ∃ document link content value,
      Uses setup engine given document link ∧ Yields setup engine document link content value ∧
        Completes setup engine document value output after := by
  obtain ⟨ready, document, link, content, value, uses, yields, loaded, ended, unchanged, delivered,
    same⟩ := runSelector_ok ran
  refine ⟨document, link, content, value, uses, yields, ?_⟩
  have keyed : engine.workspace.Keyed := by
    rw [reached]
    exact keyed_performAll disk run
  obtain ⟨text, file, sight⟩ := deliver_holds (by rw [unchanged]; exact keyed) delivered
  rw [← same] at text file sight
  have artifact : output = ⟨(document.outputPath setup.config.outputSuffix).documentId,
      document.outputPath setup.config.outputSuffix⟩ := by
    obtain ⟨opened, opening, _⟩ := deliver_ok delivered
    exact openOutput_output opening
  have confined : Confined (some output.id) engine.workspace after.workspace := by
    have tends := runSelector_tends setup engine given
    rw [focusOutput?, uses.focused, ran] at tends
    rw [artifact]
    exact tends.confined keyed
  obtain ⟨session, hub, diagnostics⟩ := runSelector_frame setup engine given
  have trail := runSelector_trail setup engine given
  rw [ran] at session hub diagnostics trail
  exact
    { ready
      artifact
      file
      text
      isOpen := isOpen_of_text? text
      isVisible := sight
      focus := focus_confined uses.focused confined
      confined
      diagnostics
      hub
      session
      statuses := trail.statuses
      notices := trail.notices }

/-- A selector in focus whose output is open and out of sight, with edits that have not been saved. -/
def draftRun : List (Setup Unit × Operation) :=
  focusRun ++ [.runSelector (some (.bare "page")), .host (.edit ⟨"s.temme.json"⟩ "draft"),
    .host (.hide ⟨"s.temme.json"⟩)].map (echoSetup, ·)

theorem draft_replaced :
    let engine := (new (.onDisk sampleDisk)).performAll draftRun
    let after := (engine.runSelector echoSetup (some (.bare "page"))).1
    let output : Output := ⟨⟨"s.temme.json"⟩, .ofText "s.temme.json"⟩
    engine.workspace.text? output.id = some "draft" ∧
      engine.workspace.isVisible output.id = false ∧
      ∃ document value, Completes echoSetup engine document value output after ∧
        value.render = "\"h1\"" := by
  intro engine after output
  have ran : engine.runSelector echoSetup (some (.bare "page")) =
      (after, .ok (.completed output)) := by rfl
  obtain ⟨document, _, _, value, _, _, completes⟩ := completed_run_exact rfl ran
  refine ⟨by decide +kernel, by decide +kernel, document, value, completes, ?_⟩
  exact Option.some.inj (completes.text.symm.trans (by decide +kernel))

end LiveSelector.Engine
