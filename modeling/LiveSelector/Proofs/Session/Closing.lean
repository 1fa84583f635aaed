import LiveSelector.Proofs.Events.Taken
import LiveSelector.Proofs.Session.Tickets

namespace LiveSelector

/-! How a watch ends by itself.  What counts is whether its output is open when an event comes, not
what the event says: an event that is no change ends the watch if the output is not open, and does
nothing at all if it is.  So it is the closing of the output that ends a watch, while the output may
be hidden and any other document closed.  No change ends a watch. -/

variable {Page : Type} {setup : Setup Page} {engine : Engine Page} {watch : Watch Page}
variable {event : EditorEvent} {document other : DocumentId}

theorem Workspace.isOpen_hide {workspace : Workspace} :
    (workspace.host (.hide document)).isOpen other = workspace.isOpen other := rfl

theorem Workspace.isOpen_close {workspace : Workspace} :
    (workspace.host (.close document)).isOpen other =
      (decide (document ≠ other) && workspace.isOpen other) := by
  have named : document.text = other.text ↔ document = other := by
    cases document
    cases other
    simp
  simp only [host, close]
  split
  · simp only [isOpen, buffer?, withoutFocus, Table.get?_erase, named]
    split
    · rename_i same
      simp [same]
    · rename_i different
      simp [different]
  · rename_i closed
    by_cases same : document = other
    · subst same
      simp [closed]
    · simp [same]

namespace Engine

/-- There is a watch, and its output is not open. -/
def OutputClosed (engine : Engine Page) : Prop :=
  ∃ watch, engine.session.watch = some watch ∧ engine.workspace.isOpen watch.output.id = false

theorem outputClosed_iff :
    engine.OutputClosed ↔
      (engine.session.watch.any fun watch => !engine.workspace.isOpen watch.output.id) = true := by
  cases installed : engine.session.watch with
  | none => simp [OutputClosed, installed]
  | some watch => simp [OutputClosed, installed]

instance : Decidable engine.OutputClosed := decidable_of_iff _ outputClosed_iff.symm

/-- An engine that has left its watch because the output is closed: nobody listens any more, the
generation of the watch is over, and the user sees the state and is told why. -/
def withdrawn (engine : Engine Page) : Engine Page :=
  { engine with
    session := ⟨.ready, engine.session.generation + 1, none⟩
    hub := { engine.hub with listeners := [] }
    journal :=
      { engine.journal with
        statuses := engine.journal.statuses ++ [.ofState .ready]
        notices := engine.journal.notices ++ [⟨.info, outputClosed⟩] } }

theorem outputClosed_hide :
    (engine.host (.hide document)).OutputClosed ↔ engine.OutputClosed := by
  simp only [OutputClosed, Engine.host, Workspace.isOpen_hide]

theorem outputClosed_close :
    (engine.host (.close document)).OutputClosed ↔
      engine.OutputClosed ∨ ∃ watch, engine.session.watch = some watch ∧
        watch.output.id = document := by
  simp only [OutputClosed, Engine.host, Workspace.isOpen_close]
  cases engine.session.watch with
  | none => simp
  | some watch =>
      by_cases same : document = watch.output.id
      · simp [same]
      · simp [same, Ne.symm same]

theorem Settled.stopWatch_withdrawn (settled : Settled engine)
    (installed : engine.session.watch = some watch) :
    engine.stopWatch.1.notify .info LiveSelector.outputClosed = engine.withdrawn := by
  have both : (engine.hub.unsubscribe watch.change).unsubscribe watch.lifecycle =
      { engine.hub with listeners := [] } := by
    simp [Hub.unsubscribe, settled.listeners installed]
  rw [stopWatch_of_watch installed, both]
  rfl

theorem changes_of_lifecycle (kind : event.kind = .lifecycle) (document : Option DocumentId) :
    event.changes document = false := by
  cases here : event.changes document with
  | false => rfl
  | true =>
      rw [EditorEvent.kind_of_changes here] at kind
      cases kind

theorem handleEvent_withdrawn (setup : Setup Page) (settled : Settled engine)
    (closed : engine.OutputClosed) (kind : event.kind = .lifecycle) :
    engine.handleEvent setup event = (engine.withdrawn, { stopped := true }) := by
  obtain ⟨watch, installed, gone⟩ := closed
  have taken := accept_ending setup settled installed gone kind
  simp only [handleEvent, taken, finish, settled.stopWatch_withdrawn installed]

theorem handleEvent_lasting (setup : Setup Page) (settled : Settled engine)
    (opened : ¬ engine.OutputClosed) (kind : event.kind = .lifecycle) :
    engine.handleEvent setup event = (engine, {}) := by
  have stays : event.kind = .lifecycle → ∀ watch, engine.session.watch = some watch →
      engine.workspace.isOpen watch.output.id = true := by
    intro _ watch installed
    exact (Bool.not_eq_false _).mp fun closed => opened ⟨watch, installed, closed⟩
  have passed := accept_passed setup settled
    (changes_of_lifecycle kind engine.watched?) stays
  have unchecked : engine.checked setup event = engine ∧
      checkOf setup engine.workspace event = none := by
    cases event with
    | changed document changes => cases kind
    | _ => exact ⟨rfl, rfl⟩
  simp only [handleEvent, passed, finish, unchecked]

/-- A change leaves the listeners and the state of the session alone, and the watch too but for the
number of its tickets. -/
theorem handleEvent_change (setup : Setup Page) (settled : Settled engine)
    (kind : event.kind = .change) :
    (∃ workspace diagnostics notices, (engine.handleEvent setup event).1 =
      { engine with
        workspace
        diagnostics
        session :=
          { engine.session with
            watch := engine.session.watch.map fun watch =>
              watch.numbered (EditorEvent.countChanges watch.document [event]) }
        journal := { engine.journal with notices } }) ∧
      (engine.handleEvent setup event).2.stopped = false := by
  cases here : event.changes engine.watched? with
  | true =>
      obtain ⟨watch, installed⟩ := installed_of_changes here
      rw [handleEvent_watched settled installed here]
      refine ⟨?_, rfl⟩
      obtain ⟨workspace, diagnostics, notices, evaluated⟩ := completeEvaluation_frame setup
        ((engine.checked setup event).issued watch) (nextTicket watch event)
      refine ⟨workspace, diagnostics, notices, ?_⟩
      have counted : EditorEvent.countChanges watch.document [event] = 1 := by
        rw [watched?, installed, Option.map_some] at here
        simp [EditorEvent.countChanges, here]
      rw [evaluated, installed, Option.map_some, counted]
      cases event with
      | changed document changes => rfl
      | _ => cases kind
  | false =>
      cases event with
      | changed document changes =>
          have elsewhere : engine.watched? ≠ some document := by
            intro watched
            simp [EditorEvent.changes, watched] at here
          rw [handleEvent_elsewhere settled elsewhere changes]
          refine ⟨⟨engine.workspace, (engine.checked setup (.changed document changes)).diagnostics,
            engine.journal.notices, ?_⟩, rfl⟩
          have unnumbered : (engine.session.watch.map fun watch =>
              watch.numbered
                (EditorEvent.countChanges watch.document [.changed document changes])) =
                engine.session.watch := by
            cases installed : engine.session.watch with
            | none => rfl
            | some watch =>
                rw [watched?, installed, Option.map_some] at here
                simp [EditorEvent.countChanges, here, Watch.numbered]
          rw [unnumbered]
          rfl
      | _ => cases kind

/-- What becomes of a watch at an event. -/
structure EndsByClosing (setup : Setup Page) (engine : Engine Page) (event : EditorEvent) :
    Prop where
  ends : engine.session.isWatching = true ∧
      (engine.handleEvent setup event).1.session.isWatching = false ↔
    event.kind = .lifecycle ∧ engine.OutputClosed
  told : (engine.handleEvent setup event).2.stopped = true ↔
    event.kind = .lifecycle ∧ engine.OutputClosed
  left : event.kind = .lifecycle → engine.OutputClosed →
    engine.handleEvent setup event = (engine.withdrawn, { stopped := true })
  /-- The listeners that are there while there is a watch are the two of the watch. -/
  listeners : ∀ watch, engine.session.watch = some watch → engine.hub.listeners =
    [(watch.change, .changesOf watch.document), (watch.lifecycle, .lifecycle)]
  passed : event.kind = .lifecycle → ¬ engine.OutputClosed →
    engine.handleEvent setup event = (engine, {})
  changed : event.kind = .change →
    (engine.handleEvent setup event).1.hub = engine.hub ∧
      (engine.handleEvent setup event).1.journal.statuses = engine.journal.statuses ∧
      (engine.handleEvent setup event).1.session =
        { engine.session with
          watch := engine.session.watch.map fun watch =>
            watch.numbered (EditorEvent.countChanges watch.document [event]) }

theorem Settled.endsByClosing (settled : Settled engine) (event : EditorEvent) :
    EndsByClosing setup engine event := by
  have listeners := fun watch (installed : engine.session.watch = some watch) =>
    settled.listeners installed
  cases kind : event.kind with
  | change =>
      obtain ⟨⟨workspace, diagnostics, notices, taken⟩, stopped⟩ :=
        handleEvent_change setup settled kind
      have session := congrArg Engine.session taken
      have watching : (engine.handleEvent setup event).1.session.isWatching =
          engine.session.isWatching := by
        rw [session]
        simp only [Session.isWatching, Option.isSome_map]
      refine ⟨?_, ?_, by simp [kind], listeners, by simp [kind], fun _ => ?_⟩
      · rw [watching]
        simp [kind]
      · simp [stopped, kind]
      · rw [taken]
        exact ⟨rfl, rfl, rfl⟩
  | lifecycle =>
      by_cases gone : engine.OutputClosed
      · have ending := handleEvent_withdrawn setup settled gone kind
        have watching : engine.session.isWatching = true := by
          obtain ⟨watch, installed, _⟩ := gone
          rw [Session.isWatching, installed, Option.isSome_some]
        refine ⟨?_, ?_, fun _ _ => ending, listeners, fun _ opened => absurd gone opened,
          by simp [kind]⟩
        · rw [ending]
          exact iff_of_true ⟨watching, rfl⟩ ⟨kind, gone⟩
        · rw [ending]
          exact iff_of_true rfl ⟨kind, gone⟩
      · have lasting := handleEvent_lasting setup settled gone kind
        refine ⟨?_, ?_, fun _ shut => absurd shut gone, listeners, fun _ _ => lasting,
          by simp [kind]⟩
        · rw [lasting]
          simp [gone]
        · rw [lasting]
          simp [gone]

/-- After any run, whatever the host has done in between, an event ends the watch if and only if it
is no change and the output is not open then; nothing else follows from it, and nothing at all from
an event that is no change and does not end the watch.  Hiding a document has no part in this, and
closing one only if it is the output. -/
theorem watch_ends_by_closing (workspace : Workspace) (run : List (Setup Page × Operation))
    (setup : Setup Page) (event : EditorEvent) :
    let engine : Engine Page := (new workspace).performAll run
    EndsByClosing setup engine event ∧
      ∀ document,
        ((engine.host (.hide document)).OutputClosed ↔ engine.OutputClosed) ∧
        ((engine.host (.close document)).OutputClosed ↔
          engine.OutputClosed ∨ ∃ watch, engine.session.watch = some watch ∧
            watch.output.id = document) := by
  intro engine
  have settled : Settled engine := settled_performAll (settled_new workspace) run
  exact ⟨settled.endsByClosing event, fun document => ⟨outputClosed_hide, outputClosed_close⟩⟩

/-- A watch whose output has been hidden and whose selector has been closed. -/
def hiddenRun : List (Setup Unit × Operation) :=
  restartRun.take 4 ++ [.host (.hide ⟨"s.temme.json"⟩), .host (.close ⟨"s.temme"⟩)].map
    (quietSetup, ·)

/-- The same watch once its output is closed too. -/
def shutRun : List (Setup Unit × Operation) :=
  hiddenRun ++ [(quietSetup, .host (.close ⟨"s.temme.json"⟩))]

/-- The watch goes on when its output is hidden and its selector closed, and ends at the next event
that is no change once the output is closed, whichever document that event is about. -/
theorem hidden_goes_on_and_shut_ends :
    let hidden := (new (.onDisk sampleDisk)).performAll hiddenRun
    let shut := (new (.onDisk sampleDisk)).performAll shutRun
    hidden.handleEvent quietSetup (.closed ⟨"s.temme"⟩) = (hidden, {}) ∧
      shut.handleEvent quietSetup (.activeChanged (some ⟨"t.temme"⟩)) =
        (shut.withdrawn, { stopped := true }) := by
  intro hidden shut
  have opened : ¬ hidden.OutputClosed := by decide +kernel
  have gone : shut.OutputClosed := by decide +kernel
  have goes := watch_ends_by_closing (.onDisk sampleDisk) hiddenRun quietSetup (.closed ⟨"s.temme"⟩)
  have ends := watch_ends_by_closing (.onDisk sampleDisk) shutRun quietSetup
    (.activeChanged (some ⟨"t.temme"⟩))
  exact ⟨goes.1.passed rfl opened, ends.1.left rfl gone⟩

end Engine

end LiveSelector
