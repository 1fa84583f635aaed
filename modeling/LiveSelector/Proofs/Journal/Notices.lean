import LiveSelector.Proofs.Journal.Trails
import LiveSelector.Proofs.Session.Tickets

namespace LiveSelector

/-! What the user is told of a run, a watch or a command.  Every call that does not do what it was
asked for says why, once, and nothing else; only a call that finds the engine busy says nothing. -/

open Engine (writeErrors)

def RunReport.notices : RunReport → List Notice
  | .completed _ => [⟨.info, runSucceeded⟩]
  | .skipped reason => [reason.notice]

def WatchReport.notices : WatchReport → List Notice
  | .started _ _ _ initial => writeErrors initial
  | .skipped reason => [reason.notice]

def CommandOutcome.notices : CommandOutcome → List Notice
  | .run report => report.notices
  | .watch report => report.notices
  | .stopped _ => []

/-- What the user is told of the answer of a call. -/
def noticesOf {α : Type} (notices : α → List Notice) : Except EngineError α → List Notice
  | .error reason => reason.notices
  | .ok report => notices report

theorem runTrail_notices (answer : Except EngineError RunReport) :
    (runTrail answer).notices = noticesOf RunReport.notices answer := by
  rcases answer with reason | report
  · cases reason <;> rfl
  · cases report <;> rfl

theorem watchTrail_notices (left : List SessionState) (answer : Except EngineError WatchReport) :
    (watchTrail left answer).notices = noticesOf WatchReport.notices answer := by
  rcases answer with reason | report
  · cases reason <;> rfl
  · cases report <;> rfl

namespace Engine

variable {Page : Type}

/-- The notices of a run, of the start of a watch and of a command are those of the answer.  A
failure is told as one error, in the words of the failure, unless the engine was busy; a call that is
skipped is told as one warning if there was no selector to work on, and for information if there was
no link; a run that is completed says so, and a watch that is started tells nothing but why its first
result could not be written. -/
theorem notices_follow_answer (setup : Setup Page) (engine : Engine Page) :
    (∀ given, (engine.runSelector setup given).1.journal.notices =
        engine.journal.notices ++
          noticesOf RunReport.notices (engine.runSelector setup given).2) ∧
      (∀ given, (engine.startWatch setup given).1.journal.notices =
        engine.journal.notices ++
          noticesOf WatchReport.notices (engine.startWatch setup given).2) ∧
      ∀ command argument, (engine.execute setup command argument).1.journal.notices =
        engine.journal.notices ++
          noticesOf CommandOutcome.notices (engine.execute setup command argument).2 := by
  have ran (given : Option Link) : (engine.runSelector setup given).1.journal.notices =
      engine.journal.notices ++ noticesOf RunReport.notices (engine.runSelector setup given).2 := by
    rw [← runTrail_notices]
    exact (runSelector_trail setup engine given).notices
  have started (given : Option Link) : (engine.startWatch setup given).1.journal.notices =
      engine.journal.notices ++ noticesOf WatchReport.notices (engine.startWatch setup given).2 := by
    rw [← watchTrail_notices (stopTrail engine.stopWatch.2).states]
    exact startWatch_trail.notices
  refine ⟨ran, started, fun command argument => ?_⟩
  cases named : argumentLink? argument with
  | error reason =>
      simp only [execute, named]
      exact (report_trail engine reason (argumentLink?_not_busy named)).notices
  | ok link =>
      simp only [execute, named]
      cases command with
      | runSelector =>
          have told := ran link
          rcases running : engine.runSelector setup link with ⟨after, reason | report⟩
          · rw [running] at told
            exact told
          · rw [running] at told
            exact told
      | startWatch =>
          have told := started link
          rcases starting : engine.startWatch setup link with ⟨after, reason | report⟩
          · rw [starting] at told
            exact told
          · rw [starting] at told
            exact told
      | stopWatch => exact (stopWatch_trail engine).notices

/-- A selector that is watched. -/
def watchedRun : List (Setup Unit × Operation) :=
  [.host (.openPath (.ofText "s.temme")), .host (.setActive ⟨"s.temme"⟩),
    .startWatch (some (.bare "page"))].map (quietSetup, ·)

/-- A run that is turned away because a selector is watched fails, and the user is told nothing. -/
theorem run_turned_away_in_silence :
    let watching := (new (.onDisk sampleDisk)).performAll watchedRun
    let after := watching.runSelector quietSetup none
    after.2 = .error (.busy .watching) ∧
      after.1.journal.notices = watching.journal.notices ∧
      after.1.journal.notices ≠ watching.journal.notices ++
        [⟨.error, (EngineError.busy .watching).message⟩] := by
  intro watching after
  exact ⟨rfl, by decide +kernel, by decide +kernel⟩

end Engine

end LiveSelector
