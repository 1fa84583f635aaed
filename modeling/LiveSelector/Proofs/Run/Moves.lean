import LiveSelector.Engine.Operation

namespace LiveSelector.Engine

/-! Operations as sequences of moves.  What every move preserves is preserved by every operation,
and at every point inside one. -/

variable {Page : Type} {setup : Setup Page} {engine : Engine Page}

@[simp] theorem moveAll_nil : engine.moveAll [] = engine := rfl

@[simp] theorem moveAll_cons (move : Move) (rest : List (Setup Page × Move)) :
    engine.moveAll ((setup, move) :: rest) = (engine.move setup move).moveAll rest := rfl

theorem moveAll_append (first second : List (Setup Page × Move)) :
    engine.moveAll (first ++ second) = (engine.moveAll first).moveAll second :=
  List.foldl_append

theorem acceptAll_moves (events : List EditorEvent) :
    (engine.acceptAll setup events).1 =
      engine.moveAll ((events.map .accept).map (setup, ·)) := by
  induction events generalizing engine with
  | nil => rfl
  | cons event rest ih => exact ih

theorem finish_moves (handled : HandledEvent) (ticket : Option Ticket) :
    (engine.finish setup handled ticket).1 =
      engine.moveAll ((ticket.toList.map .completeEvaluation).map (setup, ·)) := by
  cases ticket <;> rfl

theorem finishAll_moves (engine : Engine Page) (entries : List (HandledEvent × Option Ticket)) :
    (engine.finishAll setup entries).1 =
      engine.moveAll (((entries.filterMap (·.2)).map .completeEvaluation).map (setup, ·)) := by
  induction entries generalizing engine with
  | nil => rfl
  | cons entry rest ih =>
      obtain ⟨handled, ticket⟩ := entry
      have later := ih (engine.finish setup handled ticket).1
      cases ticket with
      | none => exact later
      | some ticket => exact later

theorem evaluateFirst_moves (setup : Setup Page) (engine : Engine Page) :
    (engine.evaluateFirst setup).1 =
      engine.moveAll ((.beginEvaluation 0 ::
        (engine.beginEvaluation 0).2.toList.map .completeEvaluation).map (setup, ·)) := by
  cases begun : engine.beginEvaluation 0 with
  | mk after ticket =>
      cases ticket <;> simp [evaluateFirst, begun, move]

theorem startWatch_moves (link : Option Link) :
    (engine.startWatch setup link).1 =
      engine.moveAll ((engine.watchMoves setup link).map (setup, ·)) := by
  cases opening : engine.openWatch setup link with
  | mk after result =>
      rcases result with reason | reason | opened
      · simp [startWatch, watchMoves, opening, move]
      · simp [startWatch, watchMoves, opening, move]
      · have first := evaluateFirst_moves setup after
        simp [startWatch, watchMoves, opening, move, first]

theorem movesOf_handleEvent {event : EditorEvent} {move : Move}
    (member : move ∈ engine.movesOf setup (.handleEvent event)) :
    (∃ event, move = .accept event) ∨ ∃ ticket, move = .completeEvaluation ticket := by
  simp only [movesOf, List.mem_cons, List.mem_map] at member
  rcases member with rfl | ⟨ticket, _, rfl⟩
  · exact .inl ⟨event, rfl⟩
  · exact .inr ⟨ticket, rfl⟩

theorem movesOf_handleEvents {events : List EditorEvent} {move : Move}
    (member : move ∈ engine.movesOf setup (.handleEvents events)) :
    (∃ event, move = .accept event) ∨ ∃ ticket, move = .completeEvaluation ticket := by
  simp only [movesOf, List.mem_append, List.mem_map] at member
  rcases member with ⟨event, _, rfl⟩ | ⟨ticket, _, rfl⟩
  · exact .inl ⟨event, rfl⟩
  · exact .inr ⟨ticket, rfl⟩

/-- An operation does what its moves do. -/
theorem perform_moves (operation : Operation) :
    engine.perform setup operation =
      engine.moveAll ((engine.movesOf setup operation).map (setup, ·)) := by
  cases operation with
  | execute command argument =>
      cases named : argumentLink? argument with
      | error reason => simp [perform, movesOf, execute, named, move]
      | ok link =>
          cases command with
          | runSelector => simp [perform, movesOf, execute, named, move]
          | startWatch => simpa [perform, movesOf, execute, named] using startWatch_moves link
          | stopWatch => simp [perform, movesOf, execute, named, move]
  | startWatch link => exact startWatch_moves link
  | handleEvent event => exact finish_moves _ _
  | handleEvents events =>
      simp only [perform, movesOf, List.map_append, moveAll_append, ← acceptAll_moves,
        ← finishAll_moves]
      rfl
  | _ => rfl

theorem performAll_moves (run : List (Setup Page × Operation)) :
    engine.performAll run = engine.moveAll (engine.movesOfAll run) := by
  induction run generalizing engine with
  | nil => rfl
  | cons call rest ih =>
      obtain ⟨setup, operation⟩ := call
      rw [movesOfAll, moveAll_append, ← perform_moves]
      exact ih

theorem moveAll_preserves {holds : Engine Page → Prop} {moves : List (Setup Page × Move)}
    (initially : holds engine)
    (preserved : ∀ step ∈ moves, ∀ engine : Engine Page, holds engine →
      holds (engine.move step.1 step.2)) : holds (engine.moveAll moves) := by
  induction moves generalizing engine with
  | nil => exact initially
  | cons step rest ih =>
      have here : holds (engine.move step.1 step.2) := preserved step (by simp) engine initially
      exact ih here fun step member => preserved step (List.mem_cons_of_mem _ member)

theorem perform_preserves {holds : Engine Page → Prop} (initially : holds engine)
    (preserved : ∀ (engine : Engine Page) move, holds engine → holds (engine.move setup move))
    (operation : Operation) : holds (engine.perform setup operation) := by
  rw [perform_moves]
  apply moveAll_preserves initially
  intro step member engine here
  obtain ⟨move, _, rfl⟩ := List.mem_map.mp member
  exact preserved engine move here

/-- What every move under a setup of a run preserves holds after the run. -/
theorem performAll_preserves {holds : Engine Page → Prop} {run : List (Setup Page × Operation)}
    (initially : holds engine)
    (preserved : ∀ call ∈ run, ∀ (engine : Engine Page) move, holds engine →
      holds (engine.move call.1 move)) : holds (engine.performAll run) := by
  induction run generalizing engine with
  | nil => exact initially
  | cons call rest ih =>
      have here : holds (engine.perform call.1 call.2) :=
        perform_preserves initially (preserved call (by simp)) call.2
      exact ih here fun call member => preserved call (List.mem_cons_of_mem _ member)

/-- What every move preserves holds at every point of a run. -/
theorem performAll_induction {holds : Engine Page → Prop} (initially : holds engine)
    (preserved : ∀ setup (engine : Engine Page) move, holds engine → holds (engine.move setup move))
    (run : List (Setup Page × Operation)) : holds (engine.performAll run) :=
  performAll_preserves initially fun call _ engine => preserved call.1 engine

/-- The operation that a command asks for. -/
def commanded (link : Option Link) : Command → Operation
  | .runSelector => .runSelector link
  | .startWatch => .startWatch link
  | .stopWatch => .stopWatch

theorem perform_command {given : Option Link} {argument : Option String} (command : Command)
    (named : argumentLink? argument = .ok given) :
    engine.perform setup (.execute command argument) =
      engine.perform setup (commanded given command) := by
  simp only [perform, execute, named]
  cases command <;> rfl

/-- An operation with its command, if it is one and its argument is good, read. -/
def plain : Operation → Operation
  | .execute command argument =>
    match argumentLink? argument with
    | .ok link => commanded link command
    | .error _ => .execute command argument
  | operation => operation

theorem perform_plain (setup : Setup Page) (operation : Operation) :
    engine.perform setup (plain operation) = engine.perform setup operation := by
  cases operation with
  | execute command argument =>
      simp only [plain]
      cases named : argumentLink? argument with
      | error reason => rfl
      | ok link => exact (perform_command command named).symm
  | _ => rfl

/-- A command that cannot be read has a bad argument. -/
theorem plain_execute {operation : Operation} {command : Command} {argument : Option String}
    (unread : plain operation = .execute command argument) :
    ∃ reason, argumentLink? argument = .error reason := by
  cases operation with
  | execute other text =>
      simp only [plain] at unread
      cases named : argumentLink? text with
      | error reason =>
          simp only [named] at unread
          cases unread
          exact ⟨reason, named⟩
      | ok link =>
          simp only [named] at unread
          cases other <;> cases unread
  | _ => cases unread

end LiveSelector.Engine
