import LiveSelector.Proofs.Engine.Effects
import LiveSelector.Proofs.Session.Settled

namespace LiveSelector

/-! What a step of the engine puts on record: what the user is told, the states that are shown, and
how often a page is fetched and loaded.  Every function of the engine has one lemma here, which
reads its record off its answer; the records of steps one after the other are joined. -/

def SkipReason.level : SkipReason → Level
  | .noActiveDocument | .notSelectorDocument => .warn
  | .noLinkFound | .noLinkChosen => .info

def SkipReason.notice (reason : SkipReason) : Notice :=
  ⟨reason.level, reason.message⟩

structure Trail where
  notices : List Notice := []
  states : List SessionState := []
  fetches : Nat := 0
  loads : Nat := 0
  deriving DecidableEq

namespace Trail

/-- The record of two steps, one after the other. -/
def andThen (first second : Trail) : Trail :=
  ⟨first.notices ++ second.notices, first.states ++ second.states,
    first.fetches + second.fetches, first.loads + second.loads⟩

@[simp] theorem nothing_andThen (trail : Trail) : andThen {} trail = trail := by
  simp [andThen]

/-- The record of steps, one after the other. -/
def joined : List Trail → Trail
  | [] => {}
  | first :: rest => first.andThen (joined rest)

end Trail

variable {Page : Type} {setup : Setup Page} {engine before middle after : Engine Page}
variable {document : Document} {link : Link} {given : Option Link}

open Engine (writeErrors)

/-- A step from one engine to another has a trail. -/
structure Leaves (before : Engine Page) (trail : Trail) (after : Engine Page) : Prop where
  notices : after.journal.notices = before.journal.notices ++ trail.notices
  statuses : after.journal.statuses = before.journal.statuses ++ trail.states.map .ofState
  fetches : after.fetches = before.fetches + trail.fetches
  loads : after.loads = before.loads + trail.loads

namespace Leaves

theorem nothing (notices : after.journal.notices = before.journal.notices)
    (statuses : after.journal.statuses = before.journal.statuses)
    (fetches : after.fetches = before.fetches) (loads : after.loads = before.loads) :
    Leaves before {} after :=
  ⟨by simp [notices], by simp [statuses], fetches, loads⟩

theorem trans {first second : Trail} (one : Leaves before first middle)
    (two : Leaves middle second after) : Leaves before (first.andThen second) after where
  notices := by simp [two.notices, one.notices, Trail.andThen]
  statuses := by simp [two.statuses, one.statuses, Trail.andThen]
  fetches := by simp only [two.fetches, one.fetches, Trail.andThen, Nat.add_assoc]
  loads := by simp only [two.loads, one.loads, Trail.andThen, Nat.add_assoc]

end Leaves

/-- The trail of what is told when nothing can be done. -/
def skipTrail {α : Type} : Except SkipReason α → Trail
  | .error reason => { notices := [reason.notice] }
  | .ok _ => {}

def fetchTrail {α : Type} : Except FetchError α → Trail
  | .error _ => { fetches := 1 }
  | .ok _ => { fetches := 1, loads := 1 }

/-- The trail of a run that has got as far as fetching its page. -/
def onceTrail {α : Type} : Except EngineError α → Trail
  | .error (.fetch _) => { fetches := 1 }
  | _ => { fetches := 1, loads := 1 }

/-- What the user is told of a failure; that the engine is busy the user is not told. -/
def EngineError.notices : EngineError → List Notice
  | .busy _ => []
  | reason => [⟨.error, reason.message⟩]

/-- The trail of a run by its answer. -/
def runTrail : Except EngineError RunReport → Trail
  | .error (.busy _) => {}
  | .error (.fetch reason) => ⟨(EngineError.fetch reason).notices, [.running, .ready], 1, 0⟩
  | .error reason => ⟨reason.notices, [.running, .ready], 1, 1⟩
  | .ok (.skipped reason) => { notices := [reason.notice] }
  | .ok (.completed _) => ⟨[⟨.info, runSucceeded⟩], [.running, .ready], 1, 1⟩

/-- The trail of the opening of a watch by its answer, after the states shown for leaving one. -/
def openTrail (left : List SessionState) :
    Except EngineError (Except SkipReason OpenedWatch) → Trail
  | .error (.busy _) => {}
  | .error (.fetch reason) => ⟨(EngineError.fetch reason).notices, left, 1, 0⟩
  | .error reason => ⟨reason.notices, left, 1, 1⟩
  | .ok (.error reason) => ⟨[reason.notice], left, 0, 0⟩
  | .ok (.ok _) => ⟨[], left ++ [.watching], 1, 1⟩

/-- The trail of a start of a watch by its answer, after the states shown for leaving one. -/
def watchTrail (left : List SessionState) : Except EngineError WatchReport → Trail
  | .error (.busy _) => {}
  | .error (.fetch reason) => ⟨(EngineError.fetch reason).notices, left, 1, 0⟩
  | .error reason => ⟨reason.notices, left, 1, 1⟩
  | .ok (.skipped reason) => ⟨[reason.notice], left, 0, 0⟩
  | .ok (.started _ _ _ initial) => ⟨writeErrors initial, left ++ [.watching], 1, 1⟩

/-- The trail of the end of a watch, if there was one. -/
def stopTrail (stopped : Bool) : Trail :=
  { states := if stopped then [.ready] else [] }

/-- The trail of taking an event. -/
def acceptTrail (handled : HandledEvent) : Trail :=
  if handled.stopped then { notices := [⟨.info, outputClosed⟩], states := [.ready] } else {}

/-- The trail of the evaluation of an event, if there is one. -/
def finishTrail (handled : HandledEvent) : Trail :=
  { notices := (handled.evaluation.map writeErrors).getD [] }

/-- The trail of events taken together: all are taken first, then the evaluations are done. -/
def eventsTrail (handled : List HandledEvent) : Trail :=
  (Trail.joined (handled.map acceptTrail)).andThen (Trail.joined (handled.map finishTrail))

namespace Engine

theorem notify_trail (level : Level) (text : String) :
    Leaves engine { notices := [⟨level, text⟩] } (engine.notify level text) :=
  ⟨rfl, by simp [notify], rfl, rfl⟩

theorem report_trail (engine : Engine Page) (reason : EngineError)
    (notBusy : ∀ state, reason ≠ .busy state) :
    Leaves engine { notices := reason.notices } (engine.report reason) := by
  cases reason with
  | busy state => exact absurd rfl (notBusy state)
  | _ => exact notify_trail .error _

theorem enter_trail (engine : Engine Page) (state : SessionState) :
    Leaves engine { states := [state] } (engine.enter state) :=
  ⟨by simp [enter], rfl, rfl, rfl⟩

theorem skip_notice (reason : SkipReason) :
    engine.skip reason = engine.notify reason.level reason.message := by
  cases reason <;> rfl

theorem prepare_trail (setup : Setup Page) (engine : Engine Page) (given : Option Link) :
    Leaves engine (skipTrail (engine.prepare setup given).2) (engine.prepare setup given).1 := by
  have skipped (now : Engine Page) (reason : SkipReason) :
      Leaves now { notices := [reason.notice] } (now.skip reason) := by
    rw [skip_notice]
    exact notify_trail reason.level reason.message
  have asked (prompt : Option Prompt) : Leaves engine {} (engine.asked prompt) :=
    .nothing rfl rfl rfl rfl
  simp only [prepare]
  split
  · exact skipped engine .noActiveDocument
  · split
    · exact skipped engine .notSelectorDocument
    · split
      · exact .nothing rfl rfl rfl rfl
      · split
        · rename_i prompt _
          exact asked prompt
        · rename_i prompt _
          exact (asked prompt).trans (skipped _ .noLinkFound)
        · rename_i prompt _
          exact (asked prompt).trans (skipped _ .noLinkChosen)

theorem load_trail (setup : Setup Page) (engine : Engine Page) (document : Document) (link : Link) :
    Leaves engine (fetchTrail (engine.load setup document link).2)
      (engine.load setup document link).1 := by
  simp only [load]
  split
  · exact ⟨by simp [fetchTrail], by simp [fetchTrail], rfl, rfl⟩
  · exact ⟨by simp [fetchTrail], by simp [fetchTrail], rfl, rfl⟩

theorem openOutput_trail (setup : Setup Page) (engine : Engine Page) (document : Document) :
    Leaves engine {} (engine.openOutput setup document).1 := by
  obtain ⟨workspace, after⟩ := openOutput_frame setup engine document
  rw [after]
  exact .nothing rfl rfl rfl rfl

theorem deliver_trail (setup : Setup Page) (engine : Engine Page) (document : Document)
    (value : Json) :
    Leaves engine {} (engine.deliver setup document value).1 := by
  obtain ⟨workspace, after⟩ := deliver_frame setup engine document value
  rw [after]
  exact .nothing rfl rfl rfl rfl

theorem runOnce_trail (setup : Setup Page) (engine : Engine Page) (document : Document)
    (link : Link) :
    Leaves engine (onceTrail (engine.runOnce setup document link).2)
      (engine.runOnce setup document link).1 := by
  have fetched := load_trail setup engine document link
  simp only [runOnce]
  rcases loading : engine.load setup document link with ⟨loaded, reason | ⟨content, page⟩⟩
  · rw [loading] at fetched
    exact fetched
  · rw [loading] at fetched
    simp only
    split
    · rename_i value _
      have delivered := deliver_trail setup loaded document value
      have counted : onceTrail (loaded.deliver setup document value).2 =
          { fetches := 1, loads := 1 } := by
        simp only [deliver]
        split
        · rfl
        · split
          · rfl
          · rfl
      rw [counted]
      exact fetched.trans delivered
    · exact fetched
    · exact fetched

theorem runSelector_trail (setup : Setup Page) (engine : Engine Page) (given : Option Link) :
    Leaves engine (runTrail (engine.runSelector setup given).2)
      (engine.runSelector setup given).1 := by
  simp only [runSelector]
  split
  · exact .nothing rfl rfl rfl rfl
  · have told := prepare_trail setup engine given
    rcases preparing : engine.prepare setup given with ⟨prepared, reason | ⟨document, link⟩⟩
    · rw [preparing] at told
      exact told
    · rw [preparing] at told
      have ran := runOnce_trail setup (prepared.enter .running) document link
      have notBusy := runOnce_not_busy setup (prepared.enter .running) document link
      have entered := told.trans (enter_trail prepared .running)
      simp only
      rcases running : (prepared.enter .running).runOnce setup document link with
        ⟨after, reason | output⟩
      · rw [running] at ran notBusy
        have other : ∀ state, reason ≠ .busy state := fun state same => notBusy state (by rw [same])
        have ended := ((entered.trans ran).trans (enter_trail after .ready)).trans
          (report_trail _ reason other)
        cases reason with
        | busy state => exact absurd rfl (other state)
        | _ => exact ended
      · rw [running] at ran
        have ended := (entered.trans ran).trans (enter_trail after .ready)
        exact ended.trans (notify_trail .info runSucceeded)

theorem stopWatch_trail (engine : Engine Page) :
    Leaves engine (stopTrail engine.stopWatch.2) engine.stopWatch.1 := by
  simp only [stopWatch]
  split
  · exact .nothing rfl rfl rfl rfl
  · exact ⟨by simp [enter, stopTrail], rfl, rfl, rfl⟩

theorem installWatch_trail (engine : Engine Page) (document : Document) (content : FetchedContent)
    (page : Page) (output : Output) :
    Leaves engine { states := [.watching] }
      (engine.installWatch document content page output) :=
  ⟨by simp [installWatch, enter], rfl, rfl, rfl⟩

theorem openWatch_trail (setup : Setup Page) (engine : Engine Page) (given : Option Link) :
    Leaves engine (openTrail (stopTrail engine.stopWatch.2).states (engine.openWatch setup given).2)
      (engine.openWatch setup given).1 := by
  simp only [openWatch]
  split
  · exact .nothing rfl rfl rfl rfl
  · have left := stopWatch_trail engine
    generalize engine.stopWatch = stopping at left ⊢
    obtain ⟨idle, stopped⟩ := stopping
    have told := prepare_trail setup idle given
    rcases preparing : idle.prepare setup given with ⟨prepared, reason | ⟨document, link⟩⟩
    · rw [preparing] at told
      simpa [Trail.andThen, openTrail, skipTrail, stopTrail] using left.trans told
    · rw [preparing] at told
      have fetched := load_trail setup prepared document link
      simp only
      rcases loading : prepared.load setup document link with ⟨loaded, reason | ⟨content, page⟩⟩
      · rw [loading] at fetched
        have failed := ((left.trans told).trans fetched).trans
          (report_trail loaded (.fetch reason) (by simp))
        simpa [Trail.andThen, openTrail, skipTrail, fetchTrail, stopTrail] using failed
      · rw [loading] at fetched
        have shown := openOutput_trail setup loaded document
        simp only
        rcases opening : loaded.openOutput setup document with ⟨opened, reason | output⟩
        · rw [opening] at shown
          have failed := (((left.trans told).trans fetched).trans shown).trans
            (report_trail opened (.workspace reason) (by simp))
          simpa [Trail.andThen, openTrail, skipTrail, fetchTrail, stopTrail] using failed
        · rw [opening] at shown
          have begun := (((left.trans told).trans fetched).trans shown).trans
            (installWatch_trail opened document content page output)
          simpa [Trail.andThen, openTrail, skipTrail, fetchTrail, stopTrail] using begun

theorem beginEvaluation_trail (engine : Engine Page) (changedLine : Nat) :
    Leaves engine {} (engine.beginEvaluation changedLine).1 := by
  obtain ⟨session, begun⟩ := beginEvaluation_frame engine changedLine
  rw [begun]
  exact .nothing rfl rfl rfl rfl

theorem completeEvaluation_trail (setup : Setup Page) (engine : Engine Page) (ticket : Ticket) :
    Leaves engine { notices := writeErrors (engine.completeEvaluation setup ticket).2 }
      (engine.completeEvaluation setup ticket).1 := by
  cases checked : engine.session.checkTicket ticket with
  | error reason =>
      rw [completeEvaluation_refused checked]
      exact .nothing rfl rfl rfl rfl
  | ok watch =>
      rw [completeEvaluation_effect checked, ← effectOf_notices]
      exact ⟨rfl, by simp [absorb], rfl, rfl⟩

theorem startWatch_trail :
    Leaves engine
      (watchTrail (stopTrail engine.stopWatch.2).states (engine.startWatch setup given).2)
      (engine.startWatch setup given).1 := by
  have begun := openWatch_trail setup engine given
  simp only [startWatch]
  rcases opening : engine.openWatch setup given with ⟨after, reason | reason | opened⟩
  · rw [opening] at begun
    cases reason with
    | _ => exact begun
  · rw [opening] at begun
    exact begun
  · rw [opening] at begun
    simp only [evaluateFirst]
    have ticketed := beginEvaluation_trail after 0
    rcases issuing : after.beginEvaluation 0 with ⟨issued, none | ticket⟩
    · rw [issuing] at ticketed
      simpa [Trail.andThen, openTrail, watchTrail, writeErrors] using begun.trans ticketed
    · rw [issuing] at ticketed
      have evaluated := (begun.trans ticketed).trans
        (completeEvaluation_trail setup issued ticket)
      simpa [Trail.andThen, openTrail, watchTrail] using evaluated

theorem detectGrammarErrors_trail (id : DocumentId) :
    Leaves engine {} (engine.detectGrammarErrors setup id).1 := by
  obtain ⟨diagnostics, checked⟩ := detectGrammarErrors_frame setup engine id
  rw [checked]
  exact .nothing rfl rfl rfl rfl

theorem activate_trail :
    Leaves engine { states := [engine.session.state] } (engine.activate setup).1 := by
  have shown := enter_trail engine engine.session.state
  simp only [activate]
  split
  · exact shown
  · exact shown.trans (detectGrammarErrors_trail _)

theorem stopIfOutputClosed_trail :
    Leaves engine (acceptTrail { stopped := engine.stopIfOutputClosed.2 })
      engine.stopIfOutputClosed.1 := by
  simp only [stopIfOutputClosed]
  split
  · exact .nothing rfl rfl rfl rfl
  · rename_i watch installed
    split
    · exact .nothing rfl rfl rfl rfl
    · have left := stopWatch_trail engine
      rw [stopWatch_of_watch installed] at left ⊢
      exact left.trans (notify_trail .info outputClosed)

theorem dispatch_trail (event : EditorEvent) :
    Leaves engine (acceptTrail { stopped := (engine.dispatch event).2.2 })
      (engine.dispatch event).1 := by
  cases installed : engine.session.watch with
  | none =>
      rw [dispatch_of_idle installed]
      exact .nothing rfl rfl rfl rfl
  | some watch =>
      simp only [dispatch, installed]
      have begun : Leaves engine {} (if (engine.hub.route event).contains watch.change then
          engine.beginEvaluation (event.changedLine?.getD 0) else (engine, none)).1 := by
        split
        · exact beginEvaluation_trail engine _
        · exact .nothing rfl rfl rfl rfl
      split
      · simpa using begun.trans stopIfOutputClosed_trail
      · exact begun

theorem accept_trail (event : EditorEvent) :
    Leaves engine (acceptTrail (engine.accept setup event).2.1) (engine.accept setup event).1 := by
  have checked : Leaves engine {} (engine.checkChange setup event).1 := by
    obtain ⟨diagnostics, frame⟩ := checkChange_frame setup engine event
    rw [frame]
    exact .nothing rfl rfl rfl rfl
  have routed := checked.trans (dispatch_trail event)
  rw [Trail.nothing_andThen] at routed
  exact routed

theorem finish_trail {handled : HandledEvent} (fresh : handled.evaluation = none)
    (ticket : Option Ticket) :
    Leaves engine (finishTrail (engine.finish setup handled ticket).2)
      (engine.finish setup handled ticket).1 := by
  cases ticket with
  | none =>
      simp only [finish, finishTrail, fresh]
      exact .nothing rfl rfl rfl rfl
  | some ticket => exact completeEvaluation_trail setup engine ticket

theorem finish_stopped (handled : HandledEvent) (ticket : Option Ticket) :
    (engine.finish setup handled ticket).2.stopped = handled.stopped := by
  cases ticket <;> rfl

theorem acceptAll_trail (setup : Setup Page) (engine : Engine Page) (events : List EditorEvent) :
    Leaves engine (Trail.joined ((engine.acceptAll setup events).2.map fun entry =>
        acceptTrail entry.1))
      (engine.acceptAll setup events).1 := by
  induction events generalizing engine with
  | nil => exact .nothing rfl rfl rfl rfl
  | cons event rest ih => exact (accept_trail event).trans (ih _)

theorem acceptAll_fresh (setup : Setup Page) (engine : Engine Page) (events : List EditorEvent) :
    ∀ entry ∈ (engine.acceptAll setup events).2, entry.1.evaluation = none := by
  induction events generalizing engine with
  | nil => simp [acceptAll]
  | cons event rest ih => exact List.forall_mem_cons.mpr ⟨rfl, ih _⟩

theorem finishAll_trail {entries : List (HandledEvent × Option Ticket)}
    (fresh : ∀ entry ∈ entries, entry.1.evaluation = none) :
    Leaves engine (Trail.joined ((engine.finishAll setup entries).2.map finishTrail))
      (engine.finishAll setup entries).1 := by
  induction entries generalizing engine with
  | nil => exact .nothing rfl rfl rfl rfl
  | cons entry rest ih =>
      obtain ⟨first, others⟩ := List.forall_mem_cons.mp fresh
      exact (finish_trail first entry.2).trans (ih others)

theorem finishAll_stopped (entries : List (HandledEvent × Option Ticket)) :
    (engine.finishAll setup entries).2.map acceptTrail =
      entries.map fun entry => acceptTrail entry.1 := by
  induction entries generalizing engine with
  | nil => rfl
  | cons entry rest ih =>
      have first : acceptTrail (engine.finish setup entry.1 entry.2).2 = acceptTrail entry.1 := by
        simp only [acceptTrail, finish_stopped]
      exact List.cons_eq_cons.mpr ⟨first, ih⟩

theorem handleEvents_trail (setup : Setup Page) (engine : Engine Page) (events : List EditorEvent) :
    Leaves engine (eventsTrail (engine.handleEvents setup events).2)
      (engine.handleEvents setup events).1 := by
  have taken := acceptAll_trail setup engine events
  have fresh := acceptAll_fresh setup engine events
  simp only [handleEvents]
  rcases accepting : engine.acceptAll setup events with ⟨accepted, entries⟩
  rw [accepting] at taken fresh
  rw [eventsTrail, finishAll_stopped]
  exact taken.trans (finishAll_trail fresh)

theorem handleEvent_trail (event : EditorEvent) :
    Leaves engine (eventsTrail [(engine.handleEvent setup event).2])
      (engine.handleEvent setup event).1 := by
  have together := handleEvents_trail setup engine [event]
  exact together

/-- What an operation puts on record, by its answer. -/
def trailOf (setup : Setup Page) (engine : Engine Page) : Operation → Trail
  | .host _ | .beginEvaluation _ | .detectGrammarErrors _ => {}
  | .activate => { states := [engine.session.state] }
  | .execute command argument =>
    match argumentLink? argument with
    | .error reason => { notices := reason.notices }
    | .ok link =>
      match command with
      | .runSelector => runTrail (engine.runSelector setup link).2
      | .startWatch =>
        watchTrail (stopTrail engine.stopWatch.2).states (engine.startWatch setup link).2
      | .stopWatch => stopTrail engine.stopWatch.2
  | .runSelector link => runTrail (engine.runSelector setup link).2
  | .startWatch link =>
    watchTrail (stopTrail engine.stopWatch.2).states (engine.startWatch setup link).2
  | .stopWatch => stopTrail engine.stopWatch.2
  | .handleEvent event => eventsTrail [(engine.handleEvent setup event).2]
  | .handleEvents events => eventsTrail (engine.handleEvents setup events).2
  | .completeEvaluation ticket =>
    { notices := writeErrors (engine.completeEvaluation setup ticket).2 }

theorem argumentLink?_not_busy {argument : Option String} {reason : EngineError}
    (refused : argumentLink? argument = .error reason) (state : SessionState) :
    reason ≠ .busy state := by
  simp only [argumentLink?] at refused
  split at refused
  · cases refused
  · split at refused
    · cases refused
    · split at refused
      · cases refused
      · cases refused
        simp

theorem perform_trail (setup : Setup Page) (engine : Engine Page) (operation : Operation) :
    Leaves engine (trailOf setup engine operation) (engine.perform setup operation) := by
  cases operation with
  | host action => exact .nothing rfl rfl rfl rfl
  | activate => exact activate_trail
  | execute command argument =>
      cases named : argumentLink? argument with
      | error reason =>
          simp only [perform, execute, trailOf, named]
          exact report_trail engine reason (argumentLink?_not_busy named)
      | ok link =>
          simp only [perform, execute, trailOf, named]
          cases command with
          | runSelector => exact runSelector_trail setup engine link
          | startWatch => exact startWatch_trail
          | stopWatch => exact stopWatch_trail engine
  | runSelector link => exact runSelector_trail setup engine link
  | startWatch link => exact startWatch_trail
  | stopWatch => exact stopWatch_trail engine
  | handleEvent event => exact handleEvent_trail event
  | handleEvents events => exact handleEvents_trail setup engine events
  | beginEvaluation changedLine => exact beginEvaluation_trail engine changedLine
  | completeEvaluation ticket => exact completeEvaluation_trail setup engine ticket
  | detectGrammarErrors document => exact detectGrammarErrors_trail document

end Engine

end LiveSelector
