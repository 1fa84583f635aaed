import LiveSelector.Proofs.Engine.Evaluation
import LiveSelector.Proofs.Engine.Frames
import LiveSelector.Proofs.Run.Moves
import LiveSelector.Proofs.Workspace.Languages

namespace LiveSelector

/-! The engine works on its workspace by what a host could do there as well, and on one document
only: the output.  So what every action of the host preserves holds of the workspace at every moment
of a run, and no move changes more than the output's buffer and file. -/

variable {Page : Type} {setup : Setup Page} {engine after : Engine Page} {output : Output}
variable {document : Document} {link : Link} {artifact : Option DocumentId}

/-- Whether a move is the host's own work. -/
def Move.isHost : Move → Bool
  | .host _ => true
  | _ => false

def Operation.isHost : Operation → Bool
  | .host _ => true
  | _ => false

/-- What actions of the host can make of a workspace. -/
def Workspace.Leads (before after : Workspace) : Prop :=
  ∃ actions, after = before.hostAll actions

theorem Workspace.Leads.keyed {before after : Workspace} (leads : Leads before after)
    (keyed : before.Keyed) : after.Keyed := by
  obtain ⟨actions, rfl⟩ := leads
  exact keyed_hostAll keyed actions

theorem Workspace.Tends.leads {before after : Workspace} (tends : Tends artifact before after) :
    Leads before after := by
  induction tends with
  | refl => exact ⟨[], rfl⟩
  | action action _ _ _ ih =>
      obtain ⟨actions, rfl⟩ := ih
      exact ⟨actions ++ [action], by simp [hostAll]⟩

namespace Engine

open Workspace (Leads Tends)

/-- The output of the document in focus. -/
def focusOutput? (setup : Setup Page) (engine : Engine Page) : Option DocumentId :=
  engine.workspace.activeDocument?.map fun document =>
    (document.outputPath setup.config.outputSuffix).documentId

/-- The output of the watch. -/
def watchOutput? (engine : Engine Page) : Option DocumentId :=
  engine.session.watch.map (·.output.id)

/-- The document that a move may open, show and write to. -/
def target? (setup : Setup Page) (engine : Engine Page) : Move → Option DocumentId
  | .runSelector _ | .openWatch _ => engine.focusOutput? setup
  | .completeEvaluation _ => engine.watchOutput?
  | _ => none

theorem openOutput_output (opened : engine.openOutput setup document = (after, .ok output)) :
    output = ⟨(document.outputPath setup.config.outputSuffix).documentId,
      document.outputPath setup.config.outputSuffix⟩ := by
  simp only [openOutput] at opened
  rcases opening : engine.workspace.openDocument (document.outputPath setup.config.outputSuffix) with
    ⟨workspace, reason | id⟩
  · simp [opening] at opened
  · have named : id = (document.outputPath setup.config.outputSuffix).documentId :=
      Workspace.openDocument_id (by rw [opening])
    rw [opening, named] at opened
    simp only at opened
    split at opened
    · cases opened
      rfl
    · split at opened <;> cases opened
      rfl

theorem openOutput_tends (setup : Setup Page) (engine : Engine Page) (document : Document)
    (known : artifact = some (document.outputPath setup.config.outputSuffix).documentId) :
    Tends artifact engine.workspace (engine.openOutput setup document).1.workspace := by
  simp only [openOutput]
  have made : Tends artifact engine.workspace _ :=
    .of_action (.openDocument (document.outputPath setup.config.outputSuffix)) known
      (decide_eq_true rfl)
  simp only [Workspace.host] at made
  rcases opening : engine.workspace.openDocument (document.outputPath setup.config.outputSuffix) with
    ⟨workspace, reason | id⟩
  · rw [opening] at made
    exact made
  · have named : id = (document.outputPath setup.config.outputSuffix).documentId :=
      Workspace.openDocument_id (by rw [opening])
    rw [opening] at made
    simp only
    split
    · exact made
    · have beside := made.action (.showBeside id) known (decide_eq_true named)
      simp only [Workspace.host] at beside
      cases shown : workspace.showBeside id with
      | error reason => exact made
      | ok after =>
          rw [shown] at beside
          exact beside

theorem writeOutput_tends (engine : Engine Page) (value : Json)
    (known : artifact = some output.id) :
    Tends artifact engine.workspace (engine.writeOutput output value).1.workspace :=
  .of_action (.replaceAll output.id value.render) known (decide_eq_true rfl)

theorem stopWatch_workspace : engine.stopWatch.1.workspace = engine.workspace := by
  simp only [stopWatch]
  split <;> rfl

theorem load_workspace (setup : Setup Page) (engine : Engine Page) (document : Document)
    (link : Link) : (engine.load setup document link).1.workspace = engine.workspace := by
  obtain ⟨loads, fetched⟩ := load_frame setup engine document link
  rw [fetched]

theorem prepare_workspace (setup : Setup Page) (engine : Engine Page) (given : Option Link) :
    (engine.prepare setup given).1.workspace = engine.workspace := by
  obtain ⟨notices, prompts, prepared⟩ := prepare_frame setup engine given
  rw [prepared]

theorem prepare_document {given : Option Link}
    (prepared : engine.prepare setup given = (after, .ok (document, link))) :
    engine.workspace.activeDocument? = some document ∧
      document.languageId = setup.config.languageId := by
  simp only [prepare] at prepared
  split at prepared
  · cases prepared
  · rename_i active focused
    split at prepared
    · cases prepared
    · rename_i selector
      have same : active = document := by
        split at prepared
        · cases prepared
          rfl
        · split at prepared <;> cases prepared
          rfl
      rw [← same]
      exact ⟨focused, by simpa using selector⟩

theorem prepare_target {given : Option Link}
    (prepared : engine.prepare setup given = (after, .ok (document, link))) :
    engine.focusOutput? setup =
      some (document.outputPath setup.config.outputSuffix).documentId := by
  rw [focusOutput?, (prepare_document prepared).1, Option.map_some]

theorem deliver_tends (value : Json)
    (known : artifact = some (document.outputPath setup.config.outputSuffix).documentId) :
    Tends artifact engine.workspace (engine.deliver setup document value).1.workspace := by
  simp only [deliver]
  have opened := openOutput_tends setup engine document known
  rcases opening : engine.openOutput setup document with ⟨shown, reason | output⟩
  · rw [opening] at opened
    exact opened
  · rw [opening] at opened
    have here : artifact = some output.id := by rw [known, openOutput_output opening]
    have written := writeOutput_tends shown value here
    simp only
    rcases writing : shown.writeOutput output value with ⟨after, reason | done⟩
    · rw [writing] at written
      exact opened.trans written
    · rw [writing] at written
      exact opened.trans written

theorem runOnce_tends (engine : Engine Page) (link : Link)
    (known : artifact = some (document.outputPath setup.config.outputSuffix).documentId) :
    Tends artifact engine.workspace (engine.runOnce setup document link).1.workspace := by
  simp only [runOnce]
  have same := load_workspace setup engine document link
  rw [← same]
  rcases engine.load setup document link with ⟨loaded, reason | ⟨content, page⟩⟩
  · exact .refl _
  · simp only
    split
    · exact deliver_tends _ known
    · exact .refl _
    · exact .refl _

theorem runSelector_tends (setup : Setup Page) (engine : Engine Page) (given : Option Link) :
    Tends (engine.focusOutput? setup) engine.workspace
      (engine.runSelector setup given).1.workspace := by
  simp only [runSelector]
  split
  · exact .refl _
  · have same := prepare_workspace setup engine given
    rcases preparing : engine.prepare setup given with ⟨before, reason | ⟨document, link⟩⟩
    · rw [preparing] at same
      rw [← same]
      exact .refl _
    · rw [preparing] at same
      have ran := runOnce_tends (before.enter .running) link
        (prepare_target preparing)
      change Tends _ before.workspace _ at ran
      rw [same] at ran
      simp only
      rcases running : (before.enter .running).runOnce setup document link with
        ⟨ended, reason | output⟩
      · rw [running] at ran
        exact ran
      · rw [running] at ran
        exact ran

/-- A watch that is opened is one on the document in focus, a selector, and writes to the output
that goes by the document's name. -/
theorem openWatch_watch {given : Option Link} {opened : OpenedWatch}
    (opening : engine.openWatch setup given = (after, .ok (.ok opened))) :
    ∃ document watch, engine.workspace.activeDocument? = some document ∧
      document.languageId = setup.config.languageId ∧ after.session.watch = some watch ∧
      watch.document = document.id ∧ watch.output = opened.output ∧
      opened.output = ⟨(document.outputPath setup.config.outputSuffix).documentId,
        document.outputPath setup.config.outputSuffix⟩ := by
  simp only [openWatch] at opening
  split at opening
  · cases opening
  · split at opening
    · cases opening
    · rename_i ready document link prepared
      obtain ⟨focused, selector⟩ := prepare_document prepared
      rw [stopWatch_workspace] at focused
      split at opening
      · cases opening
      · split at opening
        · cases opening
        · rename_i shown
          cases opening
          exact ⟨document, _, focused, selector, rfl, rfl, rfl, openOutput_output shown⟩

theorem openWatch_output {given : Option Link} {opened : OpenedWatch}
    (opening : engine.openWatch setup given = (after, .ok (.ok opened))) :
    opened.output.id = opened.output.path.documentId ∧
      ∃ watch, after.session.watch = some watch ∧ watch.output = opened.output := by
  obtain ⟨document, watch, _, _, installed, _, output, named⟩ := openWatch_watch opening
  exact ⟨by rw [named], watch, installed, output⟩

theorem openWatch_tends (setup : Setup Page) (engine : Engine Page) (given : Option Link) :
    Tends (engine.focusOutput? setup) engine.workspace
      (engine.openWatch setup given).1.workspace := by
  simp only [openWatch]
  split
  · exact .refl _
  · have focus : engine.focusOutput? setup = engine.stopWatch.1.focusOutput? setup := by
      rw [focusOutput?, focusOutput?, stopWatch_workspace]
    have unchanged : engine.stopWatch.1.workspace = engine.workspace := stopWatch_workspace
    rw [focus, ← unchanged]
    generalize engine.stopWatch.1 = left
    have same := prepare_workspace setup left given
    rcases preparing : left.prepare setup given with ⟨ready, reason | ⟨document, link⟩⟩
    · rw [preparing] at same
      rw [← same]
      exact .refl _
    · rw [preparing] at same
      rw [← same, ← load_workspace setup ready document link]
      simp only
      rcases ready.load setup document link with ⟨loaded, reason | ⟨content, page⟩⟩
      · exact .refl _
      · have shown := openOutput_tends setup loaded document (prepare_target preparing)
        simp only
        rcases opening : loaded.openOutput setup document with ⟨opened, reason | output⟩
        · rw [opening] at shown
          exact shown
        · rw [opening] at shown
          exact shown

theorem openWatch_leads (setup : Setup Page) (engine : Engine Page) (given : Option Link) :
    Leads engine.workspace (engine.openWatch setup given).1.workspace :=
  (openWatch_tends setup engine given).leads

theorem completeEvaluation_tends (ticket : Ticket) :
    Tends engine.watchOutput? engine.workspace
      (engine.completeEvaluation setup ticket).1.workspace := by
  simp only [completeEvaluation]
  split
  · exact .refl _
  · rename_i watch accepted
    have known : engine.watchOutput? = some watch.output.id := by
      rw [watchOutput?, Session.watch_of_checkTicket accepted, Option.map_some]
    split
    · exact .refl _
    · simp only [evaluate]
      split
      · rename_i value _
        have written := writeOutput_tends engine value known
        simp only [writeResult]
        rcases writing : engine.writeOutput watch.output value with ⟨after, reason | done⟩
        · rw [writing] at written
          exact written
        · rw [writing] at written
          exact written
      · exact .refl _
      · exact .refl _

/-- Whatever a move of the engine does to the workspace, it does to its output. -/
theorem move_tends (setup : Setup Page) (engine : Engine Page) {move : Move}
    (own : move.isHost = false) :
    Tends (engine.target? setup move) engine.workspace (engine.move setup move).workspace := by
  cases move with
  | host action => contradiction
  | activate =>
      obtain ⟨diagnostics, statuses, frame⟩ := activate_frame setup engine
      rw [Engine.move, frame]
      exact .refl _
  | refuse reason => exact .refl _
  | runSelector given => exact runSelector_tends setup engine given
  | openWatch given => exact openWatch_tends setup engine given
  | stopWatch =>
      rw [Engine.move, stopWatch_workspace]
      exact .refl _
  | accept event =>
      obtain ⟨hub, diagnostics, session, journal, frame⟩ := accept_frame setup engine event
      rw [Engine.move, frame]
      exact .refl _
  | beginEvaluation changedLine =>
      obtain ⟨session, frame⟩ := beginEvaluation_frame engine changedLine
      rw [Engine.move, frame]
      exact .refl _
  | completeEvaluation ticket => exact completeEvaluation_tends ticket
  | detectGrammarErrors document =>
      obtain ⟨diagnostics, frame⟩ := detectGrammarErrors_frame setup engine document
      rw [Engine.move, frame]
      exact .refl _

theorem own_watchMoves {given : Option Link} {move : Move}
    (member : move ∈ engine.watchMoves setup given) : move.isHost = false := by
  simp only [watchMoves] at member
  split at member
  · rcases List.mem_cons.mp member with rfl | later
    · rfl
    · rcases List.mem_cons.mp later with rfl | last
      · rfl
      · obtain ⟨ticket, _, rfl⟩ := List.mem_map.mp last
        rfl
  · cases List.mem_singleton.mp member
    rfl

theorem own_movesOf {operation : Operation} (own : operation.isHost = false) {move : Move}
    (member : move ∈ engine.movesOf setup operation) : move.isHost = false := by
  cases operation with
  | host action => contradiction
  | execute command argument =>
      cases named : argumentLink? argument with
      | error reason =>
          simp only [movesOf, named] at member
          cases List.mem_singleton.mp member
          rfl
      | ok link =>
          simp only [movesOf, named] at member
          cases command with
          | startWatch => exact own_watchMoves member
          | _ =>
              cases List.mem_singleton.mp member
              rfl
  | startWatch link => exact own_watchMoves member
  | handleEvent event =>
      rcases movesOf_handleEvent member with ⟨_, rfl⟩ | ⟨_, rfl⟩
      · rfl
      · rfl
  | handleEvents events =>
      rcases movesOf_handleEvents member with ⟨_, rfl⟩ | ⟨_, rfl⟩
      · rfl
      · rfl
  | _ =>
      cases List.mem_singleton.mp member
      rfl

theorem performOwn_preserves {holds : Engine Page → Prop} {operation : Operation}
    (own : operation.isHost = false)
    (preserved : ∀ (now : Engine Page) move, move.isHost = false → holds now →
      holds (now.move setup move))
    (initially : holds engine) : holds (engine.perform setup operation) := by
  rw [perform_moves]
  apply moveAll_preserves initially
  intro step member now here
  obtain ⟨move, among, rfl⟩ := List.mem_map.mp member
  exact preserved now move (own_movesOf own among) here

theorem move_languages {move : Move} (own : move.isHost = false) :
    (engine.move setup move).workspace.languages = engine.workspace.languages :=
  (move_tends setup engine own).languages

/-- Whatever a move does to the workspace, actions of the host could have done. -/
theorem move_leads (setup : Setup Page) (engine : Engine Page) (move : Move) :
    Leads engine.workspace (engine.move setup move).workspace := by
  cases move with
  | host action => exact ⟨[action], rfl⟩
  | _ => exact (move_tends setup engine rfl).leads

/-- At every moment of a run open documents go by the paths of their files. -/
theorem keyed_performAll (disk : Disk) (run : List (Setup Page × Operation)) :
    ((new (.onDisk disk)).performAll run).workspace.Keyed :=
  performAll_induction (Workspace.keyed_onDisk disk)
    (fun setup engine move keyed => (move_leads setup engine move).keyed keyed) run

end Engine

end LiveSelector
