import LiveSelector.Engine.Commands
import LiveSelector.Engine.Events
import LiveSelector.Workspace.Host

namespace LiveSelector

/-!
Runs.  A run is a list of operations, each with the setup of its moment, so that nothing ties the
answer of a fetch, a question or an evaluation to an earlier one.  An operation is made up of moves:
a move issues at most one ticket, ends at most one watch and does at most one evaluation of one.
-/

/-- What a host may ask of an engine, its own work on the workspace included. -/
inductive Operation where
  | host (action : HostAction)
  | activate
  | execute (command : Command) (argument : Option String)
  | runSelector (link : Option Link)
  | startWatch (link : Option Link)
  | stopWatch
  | handleEvent (event : EditorEvent)
  | handleEvents (events : List EditorEvent)
  | beginEvaluation (changedLine : Nat)
  | completeEvaluation (ticket : Ticket)
  | detectGrammarErrors (document : DocumentId)

inductive Move where
  | host (action : HostAction)
  | activate
  | refuse (reason : EngineError)
  | runSelector (link : Option Link)
  | openWatch (link : Option Link)
  | stopWatch
  | accept (event : EditorEvent)
  | beginEvaluation (changedLine : Nat)
  | completeEvaluation (ticket : Ticket)
  | detectGrammarErrors (document : DocumentId)

namespace Engine

variable {Page : Type}

def host (engine : Engine Page) (action : HostAction) : Engine Page :=
  { engine with workspace := engine.workspace.host action }

def perform (setup : Setup Page) (engine : Engine Page) : Operation → Engine Page
  | .host action => engine.host action
  | .activate => (engine.activate setup).1
  | .execute command argument => (engine.execute setup command argument).1
  | .runSelector link => (engine.runSelector setup link).1
  | .startWatch link => (engine.startWatch setup link).1
  | .stopWatch => engine.stopWatch.1
  | .handleEvent event => (engine.handleEvent setup event).1
  | .handleEvents events => (engine.handleEvents setup events).1
  | .beginEvaluation changedLine => (engine.beginEvaluation changedLine).1
  | .completeEvaluation ticket => (engine.completeEvaluation setup ticket).1
  | .detectGrammarErrors document => (engine.detectGrammarErrors setup document).1

def performAll (engine : Engine Page) (run : List (Setup Page × Operation)) : Engine Page :=
  run.foldl (fun engine call => engine.perform call.1 call.2) engine

def move (setup : Setup Page) (engine : Engine Page) : Move → Engine Page
  | .host action => engine.host action
  | .activate => (engine.activate setup).1
  | .refuse reason => engine.report reason
  | .runSelector link => (engine.runSelector setup link).1
  | .openWatch link => (engine.openWatch setup link).1
  | .stopWatch => engine.stopWatch.1
  | .accept event => (engine.accept setup event).1
  | .beginEvaluation changedLine => (engine.beginEvaluation changedLine).1
  | .completeEvaluation ticket => (engine.completeEvaluation setup ticket).1
  | .detectGrammarErrors document => (engine.detectGrammarErrors setup document).1

def moveAll (engine : Engine Page) (moves : List (Setup Page × Move)) : Engine Page :=
  moves.foldl (fun engine step => engine.move step.1 step.2) engine

def watchMoves (setup : Setup Page) (engine : Engine Page) (link : Option Link) : List Move :=
  match engine.openWatch setup link with
  | (begun, .ok (.ok _)) =>
    .openWatch link :: .beginEvaluation 0 ::
      (begun.beginEvaluation 0).2.toList.map .completeEvaluation
  | _ => [.openWatch link]

/-- The moves that an operation is made up of. -/
def movesOf (setup : Setup Page) (engine : Engine Page) : Operation → List Move
  | .host action => [.host action]
  | .activate => [.activate]
  | .execute command argument =>
    match argumentLink? argument with
    | .error reason => [.refuse reason]
    | .ok link =>
      match command with
      | .runSelector => [.runSelector link]
      | .startWatch => engine.watchMoves setup link
      | .stopWatch => [.stopWatch]
  | .runSelector link => [.runSelector link]
  | .startWatch link => engine.watchMoves setup link
  | .stopWatch => [.stopWatch]
  | .handleEvent event =>
    .accept event :: (engine.accept setup event).2.2.toList.map .completeEvaluation
  | .handleEvents events =>
    events.map .accept ++
      ((engine.acceptAll setup events).2.filterMap (·.2)).map .completeEvaluation
  | .beginEvaluation changedLine => [.beginEvaluation changedLine]
  | .completeEvaluation ticket => [.completeEvaluation ticket]
  | .detectGrammarErrors document => [.detectGrammarErrors document]

/-- The moves that a run is made up of. -/
def movesOfAll (engine : Engine Page) :
    List (Setup Page × Operation) → List (Setup Page × Move)
  | [] => []
  | (setup, operation) :: rest =>
    (engine.movesOf setup operation).map (setup, ·) ++
      movesOfAll (engine.perform setup operation) rest

/-- The moves of a run up to a moment, which may be one inside an operation. -/
def movesUntil (engine : Engine Page) (run : List (Setup Page × Operation)) (moment : Nat) :
    List (Setup Page × Move) :=
  (engine.movesOfAll run).take moment

end Engine

end LiveSelector
