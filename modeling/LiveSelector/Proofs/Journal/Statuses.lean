import Mathlib.Data.List.Chain
import LiveSelector.Proofs.Journal.Trails

namespace LiveSelector

/-! The status that is shown and the state of the session.  Every function of the engine that shows
states goes from the session's state to the next along the edges of the session, so what a whole run
shows is a path of the session, and its last status is the session's state. -/

/-- The ways from one state of a session to the next. -/
inductive SessionState.Edge : SessionState → SessionState → Prop where
  | run : Edge .ready .running
  | finish : Edge .running .ready
  | watch : Edge .ready .watching
  | leave : Edge .watching .ready

namespace SessionState

/-- States one after the other, the first one on an edge from `start` and the last one `stop`. -/
inductive Path : SessionState → List SessionState → SessionState → Prop where
  | here (state : SessionState) : Path state [] state
  | next {start middle stop : SessionState} {rest : List SessionState}
      (edge : Edge start middle) (later : Path middle rest stop) : Path start (middle :: rest) stop

variable {start middle stop : SessionState} {first second : List SessionState}

theorem Path.append (one : Path start first middle) (two : Path middle second stop) :
    Path start (first ++ second) stop := by
  induction one with
  | here => exact two
  | next edge _ ih => exact .next edge (ih two)

theorem Path.isChain (path : Path start first stop) : List.IsChain Edge (start :: first) := by
  induction path with
  | here => exact .singleton _
  | next edge _ ih => exact .cons_cons edge ih

theorem Path.getLast? (path : Path start first stop) :
    (start :: first).getLast? = some stop := by
  induction path with
  | here => rfl
  | next edge _ ih => rw [List.getLast?_cons_cons, ih]

end SessionState

open SessionState (Path Edge)

variable {Page : Type} {setup : Setup Page} {engine : Engine Page} {given : Option Link}

theorem finishTrail_states (handled : List HandledEvent) :
    (Trail.joined (handled.map finishTrail)).states = [] := by
  induction handled with
  | nil => rfl
  | cons first rest ih => exact ih

theorem eventsTrail_states (handled : List HandledEvent) :
    (eventsTrail handled).states = (Trail.joined (handled.map acceptTrail)).states := by
  simp [eventsTrail, Trail.andThen, finishTrail_states]

namespace Engine

theorem runSelector_path :
    Path engine.session.state (runTrail (engine.runSelector setup given).2).states
      (engine.runSelector setup given).1.session.state := by
  rw [(runSelector_frame setup engine given).1]
  -- An answer that shows anything is none of a busy engine.
  have ready (answer : ∀ state, (engine.runSelector setup given).2 ≠ .error (.busy state)) :
      engine.session.state = .ready := by
    by_cases waiting : engine.session.state = .ready
    · exact waiting
    · exact absurd ((runSelector_busy_iff given _).mpr ⟨rfl, waiting⟩) (answer _)
  have around (answer : ∀ state, (engine.runSelector setup given).2 ≠ .error (.busy state)) :
      Path engine.session.state [.running, .ready] engine.session.state := by
    rw [ready answer]
    exact .next .run (.next .finish (.here _))
  generalize (engine.runSelector setup given).2 = answer at around
  rcases answer with reason | report
  · cases reason with
    | busy state => exact .here _
    | _ => exact around (by simp)
  · cases report with
    | skipped reason => exact .here _
    | completed output => exact around (by simp)

theorem stopWatch_path (settled : Settled engine) :
    Path engine.session.state (stopTrail engine.stopWatch.2).states
      engine.stopWatch.1.session.state := by
  cases settled with
  | ready state idle =>
      rw [stopWatch_of_idle idle]
      exact .here _
  | watching watch state installed =>
      rw [stopWatch_of_watch installed, state]
      exact .next .leave (.here _)

theorem openWatch_path (setup : Setup Page) (given : Option Link) (settled : Settled engine) :
    Path engine.session.state
      (openTrail (stopTrail engine.stopWatch.2).states (engine.openWatch setup given).2).states
      (engine.openWatch setup given).1.session.state := by
  have left := stopWatch_path settled
  have ready := settled.stopWatch.1
  generalize (stopTrail engine.stopWatch.2).states = leaving at left ⊢
  obtain ⟨_, _, _, _, before, same, unopened | opened⟩ :=
    openWatch_cases setup engine given settled.state_ne_running
  · obtain ⟨after, notOpened, notBusy⟩ := unopened
    have shown : (openTrail leaving (engine.openWatch setup given).2).states = leaving := by
      generalize (engine.openWatch setup given).2 = answer at notOpened notBusy
      rcases answer with reason | reason | opened
      · cases reason with
        | busy state => exact absurd rfl (notBusy state)
        | _ => rfl
      · rfl
      · exact absurd rfl (notOpened opened)
    rw [shown, after, same]
    exact left
  · obtain ⟨document, link, content, page, output, opening⟩ := opened
    rw [opening]
    rw [ready] at left
    exact left.append (.next .watch (.here _))

theorem beginEvaluation_state (engine : Engine Page) (changedLine : Nat) :
    (engine.beginEvaluation changedLine).1.session.state = engine.session.state := by
  simp only [beginEvaluation, Session.issueTicket]
  cases engine.session.watch <;> rfl

theorem startWatch_path (settled : Settled engine) :
    Path engine.session.state
      (watchTrail (stopTrail engine.stopWatch.2).states (engine.startWatch setup given).2).states
      (engine.startWatch setup given).1.session.state := by
  have begun := openWatch_path setup given settled
  simp only [startWatch]
  rcases opening : engine.openWatch setup given with ⟨after, reason | reason | opened⟩
  · rw [opening] at begun
    cases reason with
    | _ => exact begun
  · rw [opening] at begun
    exact begun
  · rw [opening] at begun
    have same : (after.evaluateFirst setup).1.session.state = after.session.state := by
      have issued := beginEvaluation_state after 0
      simp only [evaluateFirst]
      rcases issuing : after.beginEvaluation 0 with ⟨ticketed, none | ticket⟩
      · rw [issuing] at issued
        exact issued
      · rw [issuing] at issued
        exact (congrArg Session.state (completeEvaluation_session ticket)).trans issued
    rw [same]
    exact begun

theorem stopIfOutputClosed_path (settled : Settled engine) :
    Path engine.session.state (acceptTrail { stopped := engine.stopIfOutputClosed.2 }).states
      engine.stopIfOutputClosed.1.session.state := by
  have left := stopWatch_path settled
  simp only [stopIfOutputClosed]
  split
  · exact .here _
  · rename_i watch installed
    split
    · exact .here _
    · rw [stopWatch_of_watch installed] at left ⊢
      exact left

theorem dispatch_path (settled : Settled engine) (event : EditorEvent) :
    Path engine.session.state (acceptTrail { stopped := (engine.dispatch event).2.2 }).states
      (engine.dispatch event).1.session.state := by
  cases installed : engine.session.watch with
  | none =>
      rw [dispatch_of_idle installed]
      exact .here _
  | some watch =>
      cases event with
      | changed document changes =>
          rw [settled.dispatch_changed installed]
          split
          · rw [beginEvaluation_state]
            exact .here _
          · exact .here _
      | _ =>
          rw [settled.dispatch_lifecycle installed rfl]
          exact stopIfOutputClosed_path settled

theorem accept_path (settled : Settled engine) (event : EditorEvent) :
    Path engine.session.state (acceptTrail (engine.accept setup event).2.1).states
      (engine.accept setup event).1.session.state := by
  obtain ⟨diagnostics, frame⟩ := checkChange_frame setup engine event
  have checked : Settled (engine.checkChange setup event).1 := by
    rw [frame]
    exact settled.of_same rfl rfl
  have same : (engine.checkChange setup event).1.session = engine.session := by rw [frame]
  rw [← same]
  exact dispatch_path checked event

theorem acceptAll_path (setup : Setup Page) (settled : Settled engine) (events : List EditorEvent) :
    Path engine.session.state
      (Trail.joined ((engine.acceptAll setup events).2.map fun entry => acceptTrail entry.1)).states
      (engine.acceptAll setup events).1.session.state := by
  induction events generalizing engine with
  | nil => exact .here _
  | cons event rest ih =>
      exact (accept_path settled event).append (ih (settled_accept settled event))

theorem handleEvents_path (settled : Settled engine) (events : List EditorEvent) :
    Path engine.session.state (eventsTrail (engine.handleEvents setup events).2).states
      (engine.handleEvents setup events).1.session.state := by
  have taken := acceptAll_path setup settled events
  simp only [handleEvents]
  rcases accepting : engine.acceptAll setup events with ⟨accepted, entries⟩
  rw [accepting] at taken
  rw [eventsTrail_states, finishAll_stopped, finishAll_session]
  exact taken

theorem trailOf_command {argument : Option String} (command : Command)
    (named : argumentLink? argument = .ok given) :
    engine.trailOf setup (.execute command argument) =
      engine.trailOf setup (commanded given command) := by
  simp only [trailOf, named]
  cases command <;> rfl

/-- The states that an operation goes through.  Activating the engine shows its state once more and
goes nowhere. -/
def passedBy (setup : Setup Page) (engine : Engine Page) : Operation → List SessionState
  | .activate => []
  | operation => (engine.trailOf setup operation).states

theorem perform_path (setup : Setup Page) (settled : Settled engine) (operation : Operation) :
    Path engine.session.state (engine.passedBy setup operation)
      (engine.perform setup operation).session.state := by
  cases operation with
  | host action => exact .here _
  | activate =>
      obtain ⟨_, _, frame⟩ := activate_frame setup engine
      rw [perform, frame]
      exact .here _
  | execute command argument =>
      cases named : argumentLink? argument with
      | error reason =>
          simp only [passedBy, perform, execute, trailOf, named]
          exact .here _
      | ok link =>
          simp only [passedBy, trailOf_command command named, perform_command command named]
          cases command with
          | runSelector => exact runSelector_path
          | startWatch => exact startWatch_path settled
          | stopWatch => exact stopWatch_path settled
  | runSelector link => exact runSelector_path
  | startWatch link => exact startWatch_path settled
  | stopWatch => exact stopWatch_path settled
  | handleEvent event => exact handleEvents_path settled [event]
  | handleEvents events => exact handleEvents_path settled events
  | beginEvaluation changedLine =>
      rw [perform, beginEvaluation_state]
      exact .here _
  | completeEvaluation ticket =>
      rw [perform, completeEvaluation_session]
      exact .here _
  | detectGrammarErrors document =>
      obtain ⟨_, frame⟩ := detectGrammarErrors_frame setup engine document
      rw [perform, frame]
      exact .here _

/-- The last state that an operation shows is the one that it leaves. -/
theorem perform_shown (setup : Setup Page) (settled : Settled engine) (operation : Operation) :
    (engine.session.state :: (engine.trailOf setup operation).states).getLast? =
      some (engine.perform setup operation).session.state := by
  have path := perform_path setup settled operation
  cases operation with
  | _ => exact path.getLast?

/-- The operations that leave the states of a session alone. -/
inductive Rests (setup : Setup Page) (engine : Engine Page) : Operation → Prop where
  | hosted (action : HostAction) : Rests setup engine (.host action)
  | refused {command : Command} {argument : Option String} {reason : EngineError}
      (answer : argumentLink? argument = .error reason) :
      Rests setup engine (.execute command argument)
  | command {command : Command} {argument : Option String} {link : Option Link}
      (named : argumentLink? argument = .ok link)
      (rests : Rests setup engine (commanded link command)) :
      Rests setup engine (.execute command argument)
  | busyRun {link : Option Link} {state : SessionState}
      (answer : (engine.runSelector setup link).2 = .error (.busy state)) :
      Rests setup engine (.runSelector link)
  | skippedRun {link : Option Link} {reason : SkipReason}
      (answer : (engine.runSelector setup link).2 = .ok (.skipped reason)) :
      Rests setup engine (.runSelector link)
  | unstarted {link : Option Link} (idle : engine.session.watch = none)
      (answer : ∀ document content output initial,
        (engine.startWatch setup link).2 ≠ .ok (.started document content output initial)) :
      Rests setup engine (.startWatch link)
  | unstopped (idle : engine.session.watch = none) : Rests setup engine .stopWatch
  | event {event : EditorEvent} (lasting : (engine.handleEvent setup event).2.stopped = false) :
      Rests setup engine (.handleEvent event)
  | events {events : List EditorEvent}
      (lasting : ∀ handled ∈ (engine.handleEvents setup events).2, handled.stopped = false) :
      Rests setup engine (.handleEvents events)
  | begun (changedLine : Nat) : Rests setup engine (.beginEvaluation changedLine)
  | evaluated (ticket : Ticket) : Rests setup engine (.completeEvaluation ticket)
  | checked (document : DocumentId) : Rests setup engine (.detectGrammarErrors document)

theorem runTrail_silent_iff (answer : Except EngineError RunReport) :
    (runTrail answer).states = [] ↔
      (∃ state, answer = .error (.busy state)) ∨ ∃ reason, answer = .ok (.skipped reason) := by
  rcases answer with reason | report
  · cases reason <;> simp [runTrail]
  · cases report <;> simp [runTrail]

theorem stopTrail_silent_iff : (stopTrail engine.stopWatch.2).states = [] ↔
    engine.session.watch = none := by
  cases installed : engine.session.watch with
  | none => simp [stopWatch_of_idle installed, stopTrail]
  | some watch => simp [stopWatch_of_watch installed, stopTrail]

theorem watchTrail_silent_iff (left : List SessionState) {answer : Except EngineError WatchReport}
    (notBusy : ∀ state, answer ≠ .error (.busy state)) :
    (watchTrail left answer).states = [] ↔
      left = [] ∧ ∀ document content output initial,
        answer ≠ .ok (.started document content output initial) := by
  rcases answer with reason | report
  · cases reason with
    | busy state => exact absurd rfl (notBusy state)
    | _ => simp [watchTrail]
  · cases report <;> simp [watchTrail]

theorem eventsTrail_silent_iff (handled : List HandledEvent) :
    (eventsTrail handled).states = [] ↔ ∀ entry ∈ handled, entry.stopped = false := by
  rw [eventsTrail_states]
  induction handled with
  | nil => simp [Trail.joined]
  | cons first rest ih =>
      have here : (acceptTrail first).states = [] ↔ first.stopped = false := by
        cases stopped : first.stopped <;> simp [acceptTrail, stopped]
      simp only [List.map_cons, Trail.joined, Trail.andThen, List.append_eq_nil_iff,
        List.forall_mem_cons, here, ih]

theorem commanded_silent_iff (setup : Setup Page) (given : Option Link) (settled : Settled engine)
    (command : Command) :
    (engine.trailOf setup (commanded given command)).states = [] ↔
      Rests setup engine (commanded given command) := by
  cases command with
  | runSelector =>
      refine (runTrail_silent_iff _).trans ⟨?_, ?_⟩
      · rintro (⟨state, answer⟩ | ⟨reason, answer⟩)
        · exact .busyRun answer
        · exact .skippedRun answer
      · intro rests
        cases rests with
        | busyRun answer => exact .inl ⟨_, answer⟩
        | skippedRun answer => exact .inr ⟨_, answer⟩
  | startWatch =>
      refine (watchTrail_silent_iff _ (settled.startWatch_not_busy given)).trans ?_
      rw [stopTrail_silent_iff]
      refine ⟨fun still => .unstarted still.1 still.2, fun rests => ?_⟩
      cases rests with
      | unstarted idle answer => exact ⟨idle, answer⟩
  | stopWatch =>
      refine stopTrail_silent_iff.trans ⟨.unstopped, fun rests => ?_⟩
      cases rests with
      | unstopped idle => exact idle

theorem perform_silent_iff (settled : Settled engine) (operation : Operation) :
    (engine.trailOf setup operation).states = [] ↔ Rests setup engine operation := by
  cases operation with
  | host action => exact ⟨fun _ => .hosted action, fun _ => rfl⟩
  | activate => exact ⟨fun shown => by simp [trailOf] at shown, fun rests => nomatch rests⟩
  | execute command argument =>
      cases named : argumentLink? argument with
      | error reason =>
          have silent : (engine.trailOf setup (.execute command argument)).states = [] := by
            simp [trailOf, named]
          exact ⟨fun _ => .refused named, fun _ => silent⟩
      | ok link =>
          rw [trailOf_command command named, commanded_silent_iff setup link settled]
          refine ⟨.command named, fun rests => ?_⟩
          cases rests with
          | refused answer => exact absurd (named.symm.trans answer) (by simp)
          | command other rests =>
              cases named.symm.trans other
              exact rests
  | runSelector link => exact commanded_silent_iff setup link settled .runSelector
  | startWatch link => exact commanded_silent_iff setup link settled .startWatch
  | stopWatch => exact commanded_silent_iff setup none settled .stopWatch
  | handleEvent event =>
      refine (eventsTrail_silent_iff _).trans ⟨fun lasting => .event (by simpa using lasting), ?_⟩
      intro rests
      cases rests with
      | event lasting => simpa using lasting
  | handleEvents events =>
      refine (eventsTrail_silent_iff _).trans ⟨.events, fun rests => ?_⟩
      cases rests with
      | events lasting => exact lasting
  | beginEvaluation changedLine => exact ⟨fun _ => .begun changedLine, fun _ => rfl⟩
  | completeEvaluation ticket => exact ⟨fun _ => .evaluated ticket, fun _ => rfl⟩
  | detectGrammarErrors document => exact ⟨fun _ => .checked document, fun _ => rfl⟩

/-- The states that are shown in a run. -/
def shownIn (engine : Engine Page) : List (Setup Page × Operation) → List SessionState
  | [] => []
  | (setup, operation) :: rest =>
    (engine.trailOf setup operation).states ++ (engine.perform setup operation).shownIn rest

/-- The states that a run goes through. -/
def passedIn (engine : Engine Page) : List (Setup Page × Operation) → List SessionState
  | [] => []
  | (setup, operation) :: rest =>
    engine.passedBy setup operation ++ (engine.perform setup operation).passedIn rest

theorem settled_perform (setup : Setup Page) (settled : Settled engine) (operation : Operation) :
    Settled (engine.perform setup operation) :=
  perform_preserves settled (settled_move setup) operation

theorem performAll_statuses (engine : Engine Page) (run : List (Setup Page × Operation)) :
    (engine.performAll run).journal.statuses =
      engine.journal.statuses ++ (engine.shownIn run).map .ofState := by
  induction run generalizing engine with
  | nil => simp [shownIn, performAll]
  | cons call rest ih =>
      obtain ⟨setup, operation⟩ := call
      have here : (engine.perform setup operation).journal.statuses = _ :=
        (perform_trail setup engine operation).statuses
      have later := ih (engine.perform setup operation)
      rw [here, List.append_assoc, ← List.map_append] at later
      exact later

theorem performAll_path (settled : Settled engine) (run : List (Setup Page × Operation)) :
    Path engine.session.state (engine.passedIn run) (engine.performAll run).session.state := by
  induction run generalizing engine with
  | nil => exact .here _
  | cons call rest ih =>
      exact (perform_path call.1 settled call.2).append (ih (settled_perform call.1 settled call.2))

theorem performAll_shown (settled : Settled engine) (run : List (Setup Page × Operation)) :
    (engine.session.state :: engine.shownIn run).getLast? =
      some (engine.performAll run).session.state := by
  induction run generalizing engine with
  | nil => rfl
  | cons call rest ih =>
      obtain ⟨setup, operation⟩ := call
      have here := perform_shown setup settled operation
      have later := ih (settled_perform setup settled operation)
      calc (engine.session.state :: engine.shownIn ((setup, operation) :: rest)).getLast?
          = (((engine.perform setup operation).shownIn rest).getLast?).or
              (some (engine.perform setup operation).session.state) := by
            rw [shownIn, ← List.cons_append, List.getLast?_append, here]
        _ = ((engine.perform setup operation).session.state ::
              (engine.perform setup operation).shownIn rest).getLast? := by
            rw [← List.singleton_append, List.getLast?_append, List.getLast?_singleton]
        _ = _ := later

/-- Over a run from a new engine, the statuses shown are those of states, the states that it goes
through follow the edges of the session from its first one to its last, and the last status shown
is that of the state the session is in.  After it, activating the engine shows that state once more,
and every other operation shows the states that it goes through; it shows nothing if and only if it
leaves the states alone. -/
theorem statuses_mirror_session (workspace : Workspace) (run : List (Setup Page × Operation)) :
    let start : Engine Page := new workspace
    let engine := start.performAll run
    engine.journal.statuses = (start.shownIn run).map .ofState ∧
      List.IsChain Edge (.ready :: start.passedIn run) ∧
      (.ready :: start.passedIn run).getLast? = some engine.session.state ∧
      (∀ status ∈ engine.journal.statuses.getLast?, status = .ofState engine.session.state) ∧
      (∀ setup, (engine.perform setup .activate).journal.statuses =
        engine.journal.statuses ++ [.ofState engine.session.state]) ∧
      ∀ setup operation,
        (engine.perform setup operation).journal.statuses =
            engine.journal.statuses ++ (engine.trailOf setup operation).states.map .ofState ∧
          ((engine.trailOf setup operation).states = [] ↔ Rests setup engine operation) := by
  intro start engine
  have settled : Settled start := settled_new workspace
  have statuses : engine.journal.statuses = (start.shownIn run).map .ofState :=
    performAll_statuses start run
  have path : Path .ready (start.passedIn run) engine.session.state := performAll_path settled run
  refine ⟨statuses, path.isChain, path.getLast?, fun status last => ?_,
    fun setup => (perform_trail setup engine .activate).statuses, fun setup operation =>
      ⟨(perform_trail setup engine operation).statuses,
        perform_silent_iff (settled_performAll settled run) operation⟩⟩
  have shown := performAll_shown settled run
  rw [statuses, List.getLast?_map] at last
  obtain ⟨state, here, rfl⟩ := Option.map_eq_some_iff.mp last
  rw [← List.singleton_append, List.getLast?_append, here] at shown
  rw [Option.some.inj shown]

end Engine

end LiveSelector
