import LiveSelector.Proofs.Engine.Bound
import LiveSelector.Proofs.Events.Routing
import LiveSelector.Proofs.Output.LastWritten

namespace LiveSelector

/-! The artifact of an operation.  What the engine does to the workspace, whichever operation it is
asked for and whatever comes of it, it does to the output of the document that it runs or watches. -/

namespace Engine

open Workspace (Tends Confined)

variable {Page : Type} {setup : Setup Page} {engine : Engine Page} {operation : Operation}
variable {artifact : Option DocumentId} {suffix : String} {config : Config}

/-- The document that an operation runs or watches: the one in focus where something begins, the one
of the watch where something is evaluated. -/
def subject? (engine : Engine Page) : Operation → Option DocumentId
  | .execute .stopWatch _ => none
  | .execute _ _ | .runSelector _ | .startWatch _ => engine.workspace.activeDocument?.map (·.id)
  | .handleEvent _ | .handleEvents _ | .completeEvaluation _ => engine.watched?
  | _ => none

/-- The artifact of an operation: the companion of the document that it runs or watches. -/
def artifact? (suffix : String) (engine : Engine Page) (operation : Operation) :
    Option DocumentId :=
  (engine.subject? operation).map (·.companion suffix)

theorem Placed.focusOutput? (placed : Placed setup.config.outputSuffix engine) :
    engine.focusOutput? setup =
      (engine.workspace.activeDocument?.map (·.id)).map
        (·.companion setup.config.outputSuffix) := by
  cases focused : engine.workspace.activeDocument? with
  | none => simp only [Engine.focusOutput?, focused, Option.map_none]
  | some document =>
      have path := placed.keyed.outputPath (Workspace.activeDocument?_open focused)
        setup.config.outputSuffix
      simp only [Engine.focusOutput?, focused, Option.map_some, path, DocumentId.companion]

theorem Placed.watchOutput? (placed : Placed suffix engine) :
    engine.watchOutput? = engine.watched?.map (·.companion suffix) := by
  cases installed : engine.session.watch with
  | none => simp only [Engine.watchOutput?, watched?, installed, Option.map_none]
  | some watch =>
      have output := (placed.bound watch installed).1
      simp only [Engine.watchOutput?, watched?, installed, Option.map_some, output]

/-- Moves that begin nothing work on the output of the watch there is. -/
theorem moveAll_tends {moves : List (Setup Page × Move)}
    (attended : ∀ step ∈ moves, step.2.isHost = false ∧ step.2.attends = true)
    (known : ∀ watch, engine.session.watch = some watch → artifact = some watch.output.id) :
    Tends artifact engine.workspace (engine.moveAll moves).workspace := by
  induction moves generalizing engine with
  | nil => exact .refl _
  | cons step rest ih =>
      obtain ⟨setup, move⟩ := step
      obtain ⟨own, attends⟩ : move.isHost = false ∧ move.attends = true :=
        attended (setup, move) (by simp)
      have watching : ∀ document, engine.watchOutput? = some document →
          artifact = some document := by
        intro document there
        obtain ⟨watch, installed, rfl⟩ := Option.map_eq_some_iff.mp there
        exact known watch installed
      have here : Tends artifact engine.workspace (engine.move setup move).workspace := by
        apply (move_tends setup engine own).mono
        cases move with
        | completeEvaluation ticket => exact watching
        | runSelector given => contradiction
        | openWatch given => contradiction
        | _ =>
            intro document there
            contradiction
      have later : Tends artifact (engine.move setup move).workspace
          ((engine.move setup move).moveAll rest).workspace := by
        apply ih
        · exact fun step member => attended step (List.mem_cons_of_mem _ member)
        · intro watch installed
          obtain ⟨number, before⟩ | ⟨given, opened, opening, _⟩ := watch_of_move installed
          · exact known { watch with revision := number } before
          · rw [opening] at attends
            contradiction
      exact here.trans later

theorem watchMoves_tends (given : Option Link) :
    Tends (engine.focusOutput? setup) engine.workspace
      (engine.moveAll ((engine.watchMoves setup given).map (setup, ·))).workspace := by
  have begun := openWatch_tends setup engine given
  rcases opening : engine.openWatch setup given with ⟨after, reason | reason | opened⟩
  · rw [opening] at begun
    simpa [watchMoves, opening, move] using begun
  · rw [opening] at begun
    simpa [watchMoves, opening, move] using begun
  · rw [opening] at begun
    obtain ⟨document, watch, focused, _, installed, _, output, path⟩ := openWatch_watch opening
    have target : engine.focusOutput? setup = some watch.output.id := by
      rw [focusOutput?, focused, Option.map_some, output, path]
    have first : ∀ step ∈ ((Move.beginEvaluation 0 ::
        (after.beginEvaluation 0).2.toList.map .completeEvaluation).map (setup, ·)),
        step.2.isHost = false ∧ step.2.attends = true := by
      intro step member
      obtain ⟨move, inside, rfl⟩ := List.mem_map.mp member
      rcases List.mem_cons.mp inside with rfl | rest
      · exact ⟨rfl, rfl⟩
      · obtain ⟨ticket, _, rfl⟩ := List.mem_map.mp rest
        exact ⟨rfl, rfl⟩
    have evaluated : Tends (engine.focusOutput? setup) after.workspace _ :=
      moveAll_tends first (by
        intro other there
        cases installed.symm.trans there
        exact target)
    simp only [watchMoves, opening, List.map_cons, moveAll_cons, Engine.move] at evaluated ⊢
    exact begun.trans evaluated

theorem perform_tends (placed : Placed setup.config.outputSuffix engine)
    (own : operation.isHost = false) :
    Tends (engine.artifact? setup.config.outputSuffix operation) engine.workspace
      (engine.perform setup operation).workspace := by
  have watching : ∀ watch, engine.session.watch = some watch →
      engine.watched?.map (·.companion setup.config.outputSuffix) = some watch.output.id := by
    intro watch installed
    rw [← placed.watchOutput?, watchOutput?, installed, Option.map_some]
  have focus := placed.focusOutput?
  rw [perform_moves]
  cases operation with
  | host action => contradiction
  | execute command argument =>
      cases named : argumentLink? argument with
      | error reason =>
          simp only [movesOf, named]
          exact .refl _
      | ok link =>
          cases command with
          | runSelector =>
              simp only [movesOf, named, artifact?, subject?, ← focus]
              exact runSelector_tends setup engine link
          | startWatch =>
              simp only [movesOf, named, artifact?, subject?, ← focus]
              exact watchMoves_tends link
          | stopWatch =>
              simp only [movesOf, named]
              exact move_tends setup engine (rfl : (Move.stopWatch).isHost = false)
  | runSelector link =>
      simp only [movesOf, artifact?, subject?, ← focus]
      exact runSelector_tends setup engine link
  | startWatch link =>
      simp only [movesOf, artifact?, subject?, ← focus]
      exact watchMoves_tends link
  | handleEvent event =>
      apply moveAll_tends _ watching
      intro step member
      obtain ⟨move, inside, rfl⟩ := List.mem_map.mp member
      exact ⟨own_movesOf own inside, attends_movesOf rfl inside⟩
  | handleEvents events =>
      apply moveAll_tends _ watching
      intro step member
      obtain ⟨move, inside, rfl⟩ := List.mem_map.mp member
      exact ⟨own_movesOf own inside, attends_movesOf rfl inside⟩
  | completeEvaluation ticket =>
      simp only [artifact?, subject?, ← placed.watchOutput?]
      exact completeEvaluation_tends ticket
  | activate => exact move_tends setup engine (rfl : (Move.activate).isHost = false)
  | stopWatch => exact move_tends setup engine (rfl : (Move.stopWatch).isHost = false)
  | beginEvaluation changedLine =>
      exact move_tends setup engine (rfl : (Move.beginEvaluation changedLine).isHost = false)
  | detectGrammarErrors document =>
      exact move_tends setup engine (rfl : (Move.detectGrammarErrors document).isHost = false)

/-- Whatever an operation of the engine meets with, in whatever state a run has left the engine, it
changes no file and no buffer but those of its artifact, which may also become visible; nothing is
closed or hidden, and the focus stays.  The artifact is where the output of the document that is run
or watched goes under the settings that the engine has throughout, and an operation that runs and
watches nothing leaves the whole workspace alone. -/
theorem perform_confined {disk : Disk} {run : List (Setup Page × Operation)}
    (configured : ∀ call ∈ run, call.1.config = config) (same : setup.config = config)
    (own : operation.isHost = false) :
    let before : Engine Page := (new (.onDisk disk)).performAll run
    let after := before.perform setup operation
    Confined (before.artifact? config.outputSuffix operation) before.workspace after.workspace ∧
      (∀ id document, before.subject? operation = some id →
        before.workspace.document? id = some document →
          before.artifact? config.outputSuffix operation =
            some (document.outputPath config.outputSuffix).documentId) ∧
      (before.subject? operation = none → after.workspace = before.workspace) := by
  intro before after
  have placed : Placed config.outputSuffix before := placed_performAll configured
  have tends : Tends (before.artifact? config.outputSuffix operation) before.workspace
      after.workspace := by
    subst same
    exact perform_tends placed own
  refine ⟨tends.confined placed.keyed, ?_, ?_⟩
  · intro id document subject found
    simp only [artifact?, subject, Option.map_some, placed.keyed.outputPath found,
      DocumentId.companion]
  · intro idle
    simp only [artifact?, idle, Option.map_none] at tends
    exact tends.eq_of_none

/-- A run opens the output, which is not there yet, shows it and writes to it. -/
theorem run_confined :
    let before := (new (.onDisk sampleDisk)).performAll focusRun
    let after := before.perform echoSetup (.runSelector (some (.bare "page")))
    Confined (some ⟨"s.temme.json"⟩) before.workspace after.workspace ∧
      before.workspace.visible = [⟨"s.temme"⟩] ∧
      after.workspace.visible = [⟨"s.temme"⟩, ⟨"s.temme.json"⟩] ∧
      before.workspace.disk.fileAt (.ofText "s.temme.json") = none ∧
      after.workspace.disk.fileAt (.ofText "s.temme.json") = some (.text "\"h1\"") := by
  intro before after
  have configured : ∀ call ∈ focusRun, call.1.config = .default := by decide
  have own : (Operation.runSelector (some (.bare "page"))).isHost = false := rfl
  have confined : Confined (before.artifact? Config.default.outputSuffix
      (.runSelector (some (.bare "page")))) before.workspace after.workspace :=
    (perform_confined configured rfl own).1
  have artifact : before.artifact? Config.default.outputSuffix
      (.runSelector (some (.bare "page"))) = some ⟨"s.temme.json"⟩ := by decide +kernel
  rw [artifact] at confined
  exact ⟨confined, by decide +kernel, by decide +kernel, by decide +kernel, by decide +kernel⟩

end Engine

end LiveSelector
