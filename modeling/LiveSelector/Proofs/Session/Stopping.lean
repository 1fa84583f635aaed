import LiveSelector.Proofs.Link.Leads
import LiveSelector.Proofs.Session.Settled
import LiveSelector.Proofs.Session.Tickets

namespace LiveSelector

/-! Stopping by command.  A command's argument is looked at before the command is, and a command with
an argument that leads nowhere is refused; so a watch is stopped by every stop command but those, and
such a command leaves the watch as it is. -/

open Link (IsForeign refusal)
open Url (Begins readable)

/-- Nothing, blanks alone, or a link that leads somewhere. -/
inductive Usable : Option String → Prop where
  | absent : Usable none
  | blank {text : String} (empty : Text.trim text = "") : Usable (some text)
  | link {text : String} {kind : LinkKind}
      (leads : (Link.bare (Text.trim text)).kind none = .ok kind) : Usable (some text)

/-- The link that a text names is refused, and it is refused for its scheme. -/
structure LeadsNowhere (text : String) (reason : LinkError) : Prop where
  solid : Text.trim text ≠ ""
  refused : (Link.bare (Text.trim text)).kind none = .error reason
  foreign : ∃ scheme rest, Begins scheme (readable (Text.trim text)) rest ∧ IsForeign scheme ∧
    reason = refusal scheme (Text.trim text)

variable {argument : Option String} {text : String} {reason : LinkError}

theorem usable_or_leadsNowhere (argument : Option String) :
    Usable argument ∨ ∃ text reason, argument = some text ∧ LeadsNowhere text reason := by
  cases argument with
  | none => exact .inl .absent
  | some text =>
      by_cases empty : Text.trim text = ""
      · exact .inl (.blank empty)
      · have same : Text.trim (Link.bare (Text.trim text)).target = Text.trim text :=
          Text.trim_trim text
        have solid : Text.trim (Link.bare (Text.trim text)).target ≠ "" := by
          rw [same]
          exact empty
        rcases Link.kind_cases solid none with ⟨kind, leads⟩ | ⟨scheme, rest, begins, foreign, refused⟩
        · exact .inl (.link leads)
        · rw [same] at begins refused
          exact .inr ⟨text, _, rfl, empty, refused, scheme, rest, begins, foreign, rfl⟩

namespace Engine

variable {Page : Type} {setup : Setup Page} {engine : Engine Page}

theorem argumentLink?_usable (usable : Usable argument) :
    ∃ link, argumentLink? argument = .ok link := by
  cases usable with
  | absent => exact ⟨none, rfl⟩
  | blank empty => exact ⟨none, by simp [argumentLink?, empty]⟩
  | @link text kind leads =>
      by_cases empty : Text.trim text = ""
      · exact ⟨none, by simp [argumentLink?, empty]⟩
      · exact ⟨some (.bare (Text.trim text)), by simp [argumentLink?, empty, leads]⟩

theorem argumentLink?_leadsNowhere (nowhere : LeadsNowhere text reason) :
    argumentLink? (some text) = .error (.invalidLink (Text.trim text) reason) := by
  simp [argumentLink?, nowhere.solid, nowhere.refused]

theorem execute_stop (usable : Usable argument) :
    engine.execute setup .stopWatch argument =
      (engine.stopWatch.1, .ok (.stopped engine.stopWatch.2)) := by
  obtain ⟨link, named⟩ := argumentLink?_usable usable
  simp only [execute, named]

theorem execute_leadsNowhere (nowhere : LeadsNowhere text reason) (command : Command) :
    engine.execute setup command (some text) =
      (engine.report (.invalidLink (Text.trim text) reason),
        .error (.invalidLink (Text.trim text) reason)) := by
  simp only [execute, argumentLink?_leadsNowhere nowhere]

/-- The watch is over, if there was one, and the answer tells whether there was. -/
structure Stops (before after : Engine Page) (answer : Except EngineError CommandOutcome) :
    Prop where
  ready : after.session.state = .ready
  idle : after.session.watch = none
  silent : after.hub.listeners = []
  told : answer = .ok (.stopped before.session.isWatching)
  unchanged : before.session.isWatching = false → after = before

theorem Settled.stops (settled : Settled engine) :
    Stops engine engine.stopWatch.1 (.ok (.stopped engine.stopWatch.2)) := by
  obtain ⟨ready, idle, silent⟩ := settled.stopWatch
  cases installed : engine.session.watch with
  | none =>
      refine ⟨ready, idle, silent, ?_, fun _ => ?_⟩
      · simp [stopWatch_of_idle installed, Session.isWatching, installed]
      · rw [stopWatch_of_idle installed]
  | some watch =>
      refine ⟨ready, idle, silent, ?_, fun unwatched => ?_⟩
      · simp [stopWatch_of_watch installed, Session.isWatching, installed]
      · simp [Session.isWatching, installed] at unwatched

/-- After any run a stop command stops, unless its argument has a foreign scheme; then it is refused
for that, and nothing else follows than that the user is told so. -/
theorem stopCommand_stops (workspace : Workspace) (run : List (Setup Page × Operation))
    (setup : Setup Page) (argument : Option String) :
    let engine : Engine Page := (new workspace).performAll run
    let called := engine.execute setup .stopWatch argument
    (Usable argument → Stops engine called.1 called.2) ∧
      (¬ Usable argument → ∃ text reason, argument = some text ∧ LeadsNowhere text reason ∧
        called.1 = engine.notify .error (EngineError.invalidLink (Text.trim text) reason).message ∧
        called.2 = .error (.invalidLink (Text.trim text) reason)) := by
  intro engine called
  have settled : Settled engine := settled_performAll (settled_new workspace) run
  constructor
  · intro usable
    have answered : called = (engine.stopWatch.1, .ok (.stopped engine.stopWatch.2)) :=
      execute_stop usable
    rw [answered]
    exact settled.stops
  · intro useless
    rcases usable_or_leadsNowhere argument with usable | ⟨text, reason, given, nowhere⟩
    · exact absurd usable useless
    · subst given
      have answered : called = _ := execute_leadsNowhere nowhere .stopWatch
      rw [answered]
      exact ⟨text, reason, rfl, nowhere, rfl, rfl⟩

/-- A watch is stopped with a path for an argument, and goes on if the argument is of a scheme that no
page is fetched by. -/
theorem watch_stopped_and_not_stopped :
    let engine := (new (.onDisk sampleDisk)).performAll (restartRun.take 4)
    let stopped := engine.execute quietSetup .stopWatch (some " page.html ")
    let refused := engine.execute quietSetup .stopWatch (some "ftp://a/page")
    Usable (some " page.html ") ∧ Stops engine stopped.1 stopped.2 ∧
      ¬ Usable (some "ftp://a/page") ∧ ∃ text reason, some "ftp://a/page" = some text ∧
        LeadsNowhere text reason ∧
        refused.1 = engine.notify .error (EngineError.invalidLink (Text.trim text) reason).message ∧
        refused.2 = .error (.invalidLink (Text.trim text) reason) := by
  intro engine stopped refused
  have path : (Link.bare (Text.trim " page.html ")).kind none =
      .ok (.file (.ofText "page.html")) := by decide +kernel
  have solid : Text.trim "ftp://a/page" ≠ "" := by decide +kernel
  have foreign : (Link.bare (Text.trim "ftp://a/page")).kind none =
      .error (.unsupportedScheme "ftp") := by decide +kernel
  have useless : ¬ Usable (some "ftp://a/page") := by
    intro usable
    cases usable with
    | blank empty => exact solid empty
    | link leads =>
        rw [foreign] at leads
        cases leads
  have stops := stopCommand_stops (.onDisk sampleDisk) (restartRun.take 4) quietSetup
    (some " page.html ")
  have stays := stopCommand_stops (.onDisk sampleDisk) (restartRun.take 4) quietSetup
    (some "ftp://a/page")
  exact ⟨.link path, stops.1 (.link path), useless, stays.2 useless⟩

/-- A stop command that does not stop: with a link of a foreign scheme the watch and its listeners
stay. -/
theorem watch_survives_stop_command :
    let engine := (new (.onDisk sampleDisk)).performAll (restartRun.take 4)
    let called := engine.execute quietSetup .stopWatch (some "ftp://example.com/page")
    called.1.session.state = .watching ∧ called.1.session.isWatching = true ∧
      called.1.hub.listeners.length = 2 ∧
      called.2 = .error (.invalidLink "ftp://example.com/page" (.unsupportedScheme "ftp")) := by
  decide +kernel

end Engine

end LiveSelector
