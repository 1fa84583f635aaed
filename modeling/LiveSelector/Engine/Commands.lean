import LiveSelector.Document.CodeAction
import LiveSelector.Engine.Run
import LiveSelector.Engine.Watch

namespace LiveSelector.Engine

/-!
Commands, with the link that a code action may give them.
-/

variable {Page : Type}

/-- The link that a command's argument names; blanks alone name none. -/
def argumentLink? (argument : Option String) : Except EngineError (Option Link) :=
  match argument.map Text.trim with
  | none => .ok none
  | some target =>
    if target = "" then .ok none
    else
      match (Link.bare target).kind none with
      | .ok _ => .ok (some (.bare target))
      | .error reason => .error (.invalidLink target reason)

def execute (setup : Setup Page) (engine : Engine Page) (command : Command)
    (argument : Option String) : Engine Page × Except EngineError CommandOutcome :=
  match argumentLink? argument with
  | .error reason => (engine.report reason, .error reason)
  | .ok link =>
    match command with
    | .runSelector =>
      match engine.runSelector setup link with
      | (after, result) => (after, result.map .run)
    | .startWatch =>
      match engine.startWatch setup link with
      | (after, result) => (after, result.map .watch)
    | .stopWatch =>
      match engine.stopWatch with
      | (after, stopped) => (after, .ok (.stopped stopped))

def codeActions (setup : Setup Page) (engine : Engine Page) (id : DocumentId) (line : Nat) :
    List CodeAction :=
  match engine.workspace.document? id with
  | some document => document.codeActions line setup.config.languageId
  | none => []

end LiveSelector.Engine
