import LiveSelector.Proofs.Engine.Evaluation
import LiveSelector.Proofs.Engine.Hosted
import LiveSelector.Proofs.Session.Tickets
import LiveSelector.Proofs.Workspace.Replacing

namespace LiveSelector

/-! What the output's file holds.  From the opening of a watch on, and as long as the host keeps its
hands off that file, it holds the value that the last successful evaluation wrote there, or what it
held at the opening if there was none.  An evaluation that answers anything but `written` touches
neither the file nor the output's buffer. -/

variable {Page : Type} {setup : Setup Page} {engine : Engine Page}

/-- Whether an operation leaves alone what is watched, or ends the watch at most. -/
def Operation.attends : Operation → Bool
  | .execute _ _ | .runSelector _ | .startWatch _ => false
  | _ => true

def Move.attends : Move → Bool
  | .runSelector _ | .openWatch _ => false
  | _ => true

namespace Engine

/-- What the selector engine gives for the watched document as it is now. -/
def watchedValue? (setup : Setup Page) (engine : Engine Page) : Option Json :=
  match engine.session.watch with
  | none => none
  | some watch =>
    match engine.workspace.text? watch.document with
    | none => none
    | some text => (setup.selector.evaluate watch.page text).toOption

/-- The value that a move evaluates and reports as written. -/
def writtenValue? (setup : Setup Page) (engine : Engine Page) : Move → Option Json
  | .completeEvaluation ticket =>
    if (engine.completeEvaluation setup ticket).2 = .written then engine.watchedValue? setup
    else none
  | _ => none

/-- The value of the last evaluation that moves report as written. -/
def lastWritten? (engine : Engine Page) : List (Setup Page × Move) → Option Json
  | [] => none
  | (setup, move) :: rest =>
    ((engine.move setup move).lastWritten? rest).or (engine.writtenValue? setup move)

/-- Whether a move is none by which the host changes the file that a path stands for. -/
def spares (path : FilePath) (engine : Engine Page) : Move → Bool
  | .host action =>
    (engine.host action).workspace.disk.fileAt path = engine.workspace.disk.fileAt path
  | _ => true

def sparesAll (path : FilePath) (engine : Engine Page) : List (Setup Page × Move) → Bool
  | [] => true
  | (setup, move) :: rest =>
    engine.spares path move && (engine.move setup move).sparesAll path rest

variable {path : FilePath} {ticket : Ticket} {watch : Watch Page}

/-- The watch, if there is one, writes to the file at a path. -/
def Serves (path : FilePath) (session : Session Page) : Prop :=
  ∀ watch, session.watch = some watch → watch.output = ⟨path.documentId, path⟩

/-- What an evaluation leaves behind: either nothing is written and nothing in the workspace changes
but for directories of the disk, or the value is written. -/
theorem completeEvaluation_cases (setup : Setup Page) (engine : Engine Page) (ticket : Ticket) :
    ((engine.completeEvaluation setup ticket).2 ≠ .written ∧
        (engine.completeEvaluation setup ticket).1.workspace.buffers = engine.workspace.buffers ∧
        ∀ path, (engine.completeEvaluation setup ticket).1.workspace.disk.fileAt path =
          engine.workspace.disk.fileAt path) ∨
      ∃ watch value, (engine.completeEvaluation setup ticket).2 = .written ∧
        engine.session.watch = some watch ∧ engine.watchedValue? setup = some value ∧
        engine.workspace.replaceAll watch.output.id value.render =
          ((engine.completeEvaluation setup ticket).1.workspace, .ok ()) := by
  cases checked : engine.session.checkTicket ticket with
  | error reason =>
      rw [completeEvaluation_refused checked]
      exact .inl ⟨by simp, rfl, fun path => rfl⟩
  | ok watch =>
      cases found : engine.workspace.document? watch.document with
      | none =>
          rw [completeEvaluation_closed checked found]
          exact .inl ⟨by simp, rfl, fun path => rfl⟩
      | some document =>
          rw [completeEvaluation_accepted checked found]
          have installed := Session.watch_of_checkTicket checked
          cases evaluated : setup.selector.evaluate watch.page document.text with
          | ok value =>
              rcases replaced : engine.workspace.replaceAll watch.output.id value.render with
                ⟨workspace, reason | done⟩
              · rw [evaluate_unwritten evaluated replaced]
                exact .inl ⟨by simp, Workspace.replaceAll_failed replaced⟩
              · rw [evaluate_written evaluated replaced]
                refine .inr ⟨watch, value, rfl, installed, ?_, replaced⟩
                have text : engine.workspace.text? watch.document = some document.text := by
                  simp only [Workspace.document?, Option.map_eq_some_iff] at found
                  obtain ⟨buffer, opened, same⟩ := found
                  rw [Workspace.text?, opened, ← same]
                  rfl
                simp only [watchedValue?, installed, text, evaluated]
                rfl
          | error fault =>
              cases faulty : fault.isSyntax with
              | true =>
                  rw [evaluate_suppressed evaluated faulty]
                  exact .inl ⟨by simp, rfl, fun path => rfl⟩
              | false =>
                  rw [evaluate_failed evaluated faulty]
                  exact .inl ⟨by simp, rfl, fun path => rfl⟩

/-- The file that the watch writes to changes by what a move reports as written. -/
theorem fileAt_move (setup : Setup Page) (keyed : engine.workspace.Keyed)
    (serves : Serves path engine.session) (move : Move) (attends : move.attends = true)
    (spared : engine.spares path move = true) :
    (engine.move setup move).workspace.disk.fileAt path =
      match engine.writtenValue? setup move with
      | none => engine.workspace.disk.fileAt path
      | some value => some (.text value.render) := by
  cases move with
  | host action => exact of_decide_eq_true spared
  | runSelector link => simp [Move.attends] at attends
  | openWatch link => simp [Move.attends] at attends
  | completeEvaluation ticket =>
      obtain ⟨other, _, same⟩ | ⟨watch, value, written, installed, evaluated, replaced⟩ :=
        completeEvaluation_cases setup engine ticket
      · simp only [writtenValue?, if_neg other]
        exact same path
      · simp only [writtenValue?, if_pos written, evaluated, Engine.move]
        rw [serves watch installed] at replaced
        obtain ⟨buffer, disk, found, wrote, after⟩ := Workspace.replaceAll_written replaced
        rw [keyed.path_eq found] at wrote
        rw [after]
        exact Disk.writeAtomic_ok_fileAt wrote
  | activate =>
      obtain ⟨_, _, frame⟩ := activate_frame setup engine
      rw [Engine.move, frame]
      rfl
  | refuse reason => rfl
  | stopWatch =>
      rw [Engine.move, stopWatch_workspace]
      rfl
  | accept event =>
      obtain ⟨_, _, _, _, frame⟩ := accept_frame setup engine event
      rw [Engine.move, frame]
      rfl
  | beginEvaluation changedLine =>
      obtain ⟨_, frame⟩ := beginEvaluation_frame engine changedLine
      rw [Engine.move, frame]
      rfl
  | detectGrammarErrors document =>
      obtain ⟨_, frame⟩ := detectGrammarErrors_frame setup engine document
      rw [Engine.move, frame]
      rfl

theorem serves_move (serves : Serves path engine.session) (move : Move)
    (attends : move.attends = true) : Serves path (engine.move setup move).session := by
  intro watch installed
  obtain ⟨number, before⟩ | ⟨given, opened, opening, _⟩ := watch_of_move installed
  · exact serves { watch with revision := number } before
  · rw [opening] at attends
    contradiction

/-- From a watch on, the file holds what was last written, or what it held then. -/
theorem fileAt_moveAll (keyed : engine.workspace.Keyed) (serves : Serves path engine.session)
    (moves : List (Setup Page × Move)) (attended : ∀ step ∈ moves, step.2.attends = true)
    (spared : engine.sparesAll path moves = true) :
    (engine.moveAll moves).workspace.disk.fileAt path =
      match engine.lastWritten? moves with
      | none => engine.workspace.disk.fileAt path
      | some value => some (.text value.render) := by
  induction moves generalizing engine with
  | nil => rfl
  | cons step rest ih =>
      obtain ⟨setup, move⟩ := step
      simp only [sparesAll, Bool.and_eq_true] at spared
      have attends : move.attends = true := attended (setup, move) (by simp)
      have here := fileAt_move setup keyed serves move attends spared.1
      have later := ih ((move_leads setup engine move).keyed keyed)
        (serves_move serves move attends)
        (fun step member => attended step (List.mem_cons_of_mem _ member)) spared.2
      rw [moveAll_cons, later, lastWritten?]
      cases (engine.move setup move).lastWritten? rest with
      | some value => rfl
      | none => exact here

theorem attends_movesOf {operation : Operation} (attends : operation.attends = true)
    {move : Move} (member : move ∈ engine.movesOf setup operation) : move.attends = true := by
  cases operation with
  | execute command argument => simp [Operation.attends] at attends
  | runSelector link => simp [Operation.attends] at attends
  | startWatch link => simp [Operation.attends] at attends
  | handleEvent event =>
      rcases movesOf_handleEvent member with ⟨event, rfl⟩ | ⟨ticket, rfl⟩
      · rfl
      · rfl
  | handleEvents events =>
      rcases movesOf_handleEvents member with ⟨event, rfl⟩ | ⟨ticket, rfl⟩
      · rfl
      · rfl
  | _ =>
      cases List.mem_singleton.mp member
      rfl

theorem attends_movesOfAll {run : List (Setup Page × Operation)}
    (attended : ∀ call ∈ run, call.2.attends = true) {step : Setup Page × Move}
    (member : step ∈ engine.movesOfAll run) : step.2.attends = true := by
  induction run generalizing engine with
  | nil => cases member
  | cons call rest ih =>
      obtain ⟨setup, operation⟩ := call
      rcases List.mem_append.mp member with here | there
      · obtain ⟨move, inside, rfl⟩ := List.mem_map.mp here
        exact attends_movesOf (attended (setup, operation) (by simp)) inside
      · exact ih (fun call inside => attended call (List.mem_cons_of_mem _ inside)) there

/-- Whatever happens after a watch was opened, in whatever order tickets are completed, the file of
its output holds what the last evaluation reported as written put there: the value of the document's
text of that moment on the page of the watch.  Before the first such evaluation it holds what it held
when the watch was opened.  The host may do anything but change that file.  An evaluation that
reports anything else leaves the file and the output's buffer as they are. -/
theorem file_holds_last_written {disk : Disk} {earlier later : List (Setup Page × Operation)}
    {ready installed : Engine Page} {given : Option Link} {opened : OpenedWatch} {moment : Nat}
    {moves : List (Setup Page × Move)}
    (reached : ready = (new (.onDisk disk)).performAll earlier)
    (opening : ready.openWatch setup given = (installed, .ok (.ok opened)))
    (followed : ready.movesUntil ((setup, .startWatch given) :: later) moment =
      (setup, .openWatch given) :: moves)
    (attended : ∀ call ∈ later, call.2.attends = true)
    (spared : installed.sparesAll opened.output.path moves = true) :
    ((installed.moveAll moves).workspace.disk.fileAt opened.output.path =
        match installed.lastWritten? moves with
        | none => installed.workspace.disk.fileAt opened.output.path
        | some value => some (.text value.render)) ∧
      ∀ setup ticket, ((installed.moveAll moves).completeEvaluation setup ticket).2 ≠ .written →
        ((installed.moveAll moves).completeEvaluation setup ticket).1.workspace.disk.fileAt
            opened.output.path =
          (installed.moveAll moves).workspace.disk.fileAt opened.output.path ∧
        ((installed.moveAll moves).completeEvaluation setup ticket).1.workspace.buffer?
            opened.output.id =
          (installed.moveAll moves).workspace.buffer? opened.output.id := by
  have keyedReady : ready.workspace.Keyed := by
    rw [reached]
    exact performAll_induction (Workspace.keyed_onDisk disk)
      (fun setup engine move keyed => (move_leads setup engine move).keyed keyed) earlier
  have keyed : installed.workspace.Keyed := by
    have leads := openWatch_leads setup ready given
    rw [opening] at leads
    exact leads.keyed keyedReady
  obtain ⟨named, watch, known, output⟩ := openWatch_output opening
  have serves : Serves opened.output.path installed.session := by
    intro other installed
    cases known.symm.trans installed
    rw [output, ← named]
  have attends : ∀ step ∈ moves, step.2.attends = true := by
    intro step member
    have begun : ready.movesOf setup (.startWatch given) = .openWatch given ::
        .beginEvaluation 0 ::
          (installed.beginEvaluation 0).2.toList.map .completeEvaluation := by
      simp only [movesOf, watchMoves, opening]
    simp only [movesUntil, movesOfAll, begun, List.map_cons, List.cons_append] at followed
    cases moment with
    | zero => simp at followed
    | succ count =>
        simp only [List.take_succ_cons, List.cons.injEq, true_and] at followed
        rw [← followed] at member
        rcases List.mem_cons.mp (List.mem_of_mem_take member) with rfl | after
        · rfl
        · rcases List.mem_append.mp after with first | next
          · obtain ⟨move, inside, rfl⟩ := List.mem_map.mp first
            obtain ⟨ticket, _, rfl⟩ := List.mem_map.mp inside
            rfl
          · exact attends_movesOfAll attended next
  refine ⟨fileAt_moveAll keyed serves moves attends spared, fun setup ticket other => ?_⟩
  obtain ⟨_, buffers, files⟩ | ⟨_, _, written, _⟩ :=
    completeEvaluation_cases setup (installed.moveAll moves) ticket
  · exact ⟨files opened.output.path, by rw [Workspace.buffer?, buffers, Workspace.buffer?]⟩
  · exact absurd written other

/-- A setup in which every page is empty and the value of a selector is its own text. -/
def echoSetup : Setup Unit where
  config := .default
  selector := ⟨fun _ => none, fun _ => (), fun _ text => .ok (.string text)⟩
  fetch := fun _ _ link _ => .ok ⟨link, ""⟩
  pick := fun _ _ => none

/-- A selector opened and in focus. -/
def focusRun : List (Setup Unit × Operation) :=
  [.host (.openPath (.ofText "s.temme")), .host (.setActive ⟨"s.temme"⟩)].map (echoSetup, ·)

/-- An edit with a ticket for it, completed after an older ticket. -/
def lateTicketRun : List (Setup Unit × Operation) :=
  [.host (.edit ⟨"s.temme"⟩ "h2"), .beginEvaluation 0, .completeEvaluation ⟨1, 1, 0⟩,
    .completeEvaluation ⟨1, 2, 0⟩].map (echoSetup, ·)

/-- The text of the edit is written, not the text that the older ticket was issued for. -/
theorem edit_written_after_late_ticket :
    let ready := (new (.onDisk sampleDisk)).performAll focusRun
    let installed := (ready.openWatch echoSetup (some (.bare "page"))).1
    let moves := (ready.movesUntil
      ((echoSetup, .startWatch (some (.bare "page"))) :: lateTicketRun) 7).tail
    installed.sparesAll (.ofText "s.temme.json") moves = true ∧
      (installed.moveAll moves).workspace.disk.fileAt (.ofText "s.temme.json") =
        some (.text "\"h2\"") := by
  intro ready installed moves
  have opening : ready.openWatch echoSetup (some (.bare "page")) =
      (installed, .ok (.ok ⟨⟨"s.temme"⟩, .bare "page",
        ⟨⟨"s.temme.json"⟩, .ofText "s.temme.json"⟩⟩)) := by rfl
  have followed : ready.movesUntil
      ((echoSetup, .startWatch (some (.bare "page"))) :: lateTicketRun) 7 =
        (echoSetup, .openWatch (some (.bare "page"))) :: moves := by
    simp only [moves, movesUntil, movesOfAll, movesOf, watchMoves, opening]
    rfl
  have attended : ∀ call ∈ lateTicketRun, call.2.attends = true := by decide
  have spared : installed.sparesAll (.ofText "s.temme.json") moves = true := by decide +kernel
  have held := (file_holds_last_written rfl opening followed attended spared).1
  exact ⟨spared, held.trans (by decide +kernel)⟩

end Engine

end LiveSelector
