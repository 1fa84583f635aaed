import LiveSelector.Proofs.Engine.Effects
import LiveSelector.Proofs.Session.Settled

namespace LiveSelector

/-! What taking an event does while the output is open: its document is checked, and a change of the
watched document gets the next ticket.  Nothing else happens, whatever the event. -/

variable {Page : Type} {setup : Setup Page} {engine : Engine Page} {watch : Watch Page}
variable {event : EditorEvent} {events rest : List EditorEvent} {ticket : Ticket}

/-- Whether an event is a change of a document. -/
def EditorEvent.changes (event : EditorEvent) (document : Option DocumentId) : Bool :=
  match event with
  | .changed other _ => some other = document
  | _ => false

namespace Engine

/-- The document that is watched. -/
def watched? (engine : Engine Page) : Option DocumentId :=
  engine.session.watch.map (·.document)

/-- The output is open and is another document than the watched one. -/
def Writable (engine : Engine Page) : Prop :=
  ∀ watch, engine.session.watch = some watch →
    engine.workspace.isOpen watch.output.id = true ∧ watch.document ≠ watch.output.id

/-- No event of a list is a change of the output. -/
def Untouched (engine : Engine Page) (events : List EditorEvent) : Prop :=
  ∀ watch, engine.session.watch = some watch → ∀ event ∈ events,
    event.changes (some watch.output.id) = false

theorem writable_iff :
    Writable engine ↔
      (engine.session.watch.all fun watch =>
        engine.workspace.isOpen watch.output.id && watch.document != watch.output.id) = true := by
  cases installed : engine.session.watch with
  | none => simp [Writable, installed]
  | some watch => simp [Writable, installed]

instance : Decidable (Writable engine) := decidable_of_iff _ writable_iff.symm

theorem untouched_iff :
    Untouched engine events ↔
      (engine.session.watch.all fun watch =>
        events.all fun event => !event.changes (some watch.output.id)) = true := by
  cases installed : engine.session.watch with
  | none => simp [Untouched, installed]
  | some watch => simp [Untouched, installed]

instance : Decidable (Untouched engine events) := decidable_of_iff _ untouched_iff.symm

/-- What the check of an event finds. -/
def checkOf (setup : Setup Page) (workspace : Workspace) : EditorEvent → Option GrammarCheck
  | .changed document _ => grammarOf setup workspace document
  | _ => none

/-- An engine that has checked the document of an event. -/
def checked (setup : Setup Page) (engine : Engine Page) (event : EditorEvent) : Engine Page :=
  match event with
  | .changed document _ =>
    { engine with
      diagnostics := engine.diagnostics.show? document
        ((grammarOf setup engine.workspace document).map GrammarCheck.shown) }
  | _ => engine

/-- An engine that has issued one more ticket of its watch. -/
def issued (engine : Engine Page) (watch : Watch Page) : Engine Page :=
  { engine with
    session :=
      { engine.session with watch := some { watch with revision := watch.revision + 1 } } }

/-- The ticket for a change of the watched document. -/
def nextTicket (watch : Watch Page) (event : EditorEvent) : Ticket :=
  ⟨watch.generation, watch.revision + 1, event.changedLine?.getD 0⟩

theorem checkChange_checked :
    engine.checkChange setup event =
      (engine.checked setup event, checkOf setup engine.workspace event) := by
  cases event with
  | changed document changes => exact detectGrammarErrors_effect document
  | _ => rfl

theorem checked_session : (engine.checked setup event).session = engine.session := by
  cases event with
  | _ => rfl

theorem checked_workspace : (engine.checked setup event).workspace = engine.workspace := by
  cases event with
  | _ => rfl

theorem settled_checked (settled : Settled engine) : Settled (engine.checked setup event) := by
  cases event with
  | changed document changes => exact settled.of_same rfl rfl
  | _ => exact settled

theorem writable_checked (writable : Writable engine) : Writable (engine.checked setup event) := by
  intro watch installed
  rw [checked_session] at installed
  rw [checked_workspace]
  exact writable watch installed

theorem watched?_checked : (engine.checked setup event).watched? = engine.watched? := by
  simp only [watched?, checked_session]

theorem settled_issued (settled : Settled engine) (installed : engine.session.watch = some watch) :
    Settled (engine.issued watch) := by
  have same : engine.issued watch = (engine.beginEvaluation 0).1 := by
    simp [issued, beginEvaluation, Session.issueTicket, installed]
  rw [same]
  exact settled_beginEvaluation settled 0

theorem writable_issued (writable : Writable engine) (installed : engine.session.watch = some watch) :
    Writable (engine.issued watch) := by
  intro other there
  cases there
  exact writable watch installed

theorem watched?_issued (installed : engine.session.watch = some watch) :
    (engine.issued watch).watched? = engine.watched? := by
  simp only [watched?, issued, installed, Option.map_some]

theorem checkTicket_issued :
    (engine.issued watch).session.checkTicket (nextTicket watch event) =
      .ok { watch with revision := watch.revision + 1 } := by
  simp [issued, nextTicket, Session.checkTicket]

theorem Untouched.head (untouched : Untouched engine (event :: rest)) :
    Untouched engine [event] := by
  intro watch installed other member
  rw [List.mem_singleton.mp member]
  exact untouched watch installed event (by simp)

theorem Untouched.checked (untouched : Untouched engine (event :: rest)) :
    Untouched (engine.checked setup event) rest := by
  intro watch installed other member
  rw [checked_session] at installed
  exact untouched watch installed other (List.mem_cons_of_mem _ member)

theorem Untouched.issued (untouched : Untouched engine events)
    (installed : engine.session.watch = some watch) : Untouched (engine.issued watch) events := by
  intro other there
  cases there
  exact untouched watch installed

theorem installed_of_changes (here : event.changes engine.watched? = true) :
    ∃ watch, engine.session.watch = some watch := by
  cases installed : engine.session.watch with
  | some watch => exact ⟨watch, rfl⟩
  | none => cases event <;> simp [EditorEvent.changes, watched?, installed] at here

/-- A change of another document than the watched one reaches nobody. -/
theorem dispatch_elsewhere (settled : Settled engine) {document : DocumentId}
    (elsewhere : engine.watched? ≠ some document) (changes : List TextChange) :
    engine.dispatch (.changed document changes) = (engine, none, false) := by
  cases installed : engine.session.watch with
  | none => exact dispatch_of_idle installed _
  | some watch =>
      rw [settled.dispatch_changed installed, if_neg]
      rintro rfl
      exact elsewhere (by rw [watched?, installed, Option.map_some])

/-- An event that is no change of the watched document is checked and nothing else, unless the watch
ends with it. -/
theorem accept_passed (setup : Setup Page) (settled : Settled engine)
    (elsewhere : event.changes engine.watched? = false)
    (stays : event.kind = .lifecycle → ∀ watch, engine.session.watch = some watch →
      engine.workspace.isOpen watch.output.id = true) :
    engine.accept setup event =
      (engine.checked setup event, { grammar := checkOf setup engine.workspace event }, none) := by
  have still : Settled (engine.checked setup event) := settled_checked settled
  have routed : (engine.checked setup event).dispatch event =
      (engine.checked setup event, none, false) := by
    cases event with
    | changed document changes =>
        apply dispatch_elsewhere still
        intro watched
        rw [watched?_checked] at watched
        simp [EditorEvent.changes, watched] at elsewhere
    | _ =>
        cases installed : engine.session.watch with
        | none => exact dispatch_of_idle installed _
        | some watch =>
            have opened := stays rfl watch installed
            have kept : engine.stopIfOutputClosed = (engine, false) := by
              simp only [stopIfOutputClosed, installed, opened, if_true]
            change engine.dispatch _ = (engine, none, false)
            rw [settled.dispatch_lifecycle installed rfl, kept]
  simp only [accept, checkChange_checked, routed]

theorem accept_unwatched (settled : Settled engine) (writable : Writable engine)
    (elsewhere : event.changes engine.watched? = false) :
    engine.accept setup event =
      (engine.checked setup event, { grammar := checkOf setup engine.workspace event }, none) :=
  accept_passed setup settled elsewhere fun _ watch installed => (writable watch installed).1

theorem accept_watched (settled : Settled engine) (installed : engine.session.watch = some watch)
    (here : event.changes engine.watched? = true) :
    engine.accept setup event =
      ((engine.checked setup event).issued watch,
        { grammar := checkOf setup engine.workspace event }, some (nextTicket watch event)) := by
  cases event with
  | changed document changes =>
      have same : document = watch.document := by
        simpa [EditorEvent.changes, watched?, installed] using here
      subst same
      have still : Settled (engine.checked setup (.changed watch.document changes)) :=
        settled_checked settled
      have known : (engine.checked setup (.changed watch.document changes)).session.watch =
          some watch := by
        rw [checked_session, installed]
      have routed := still.dispatch_changed known watch.document changes
      rw [if_pos rfl] at routed
      simp only [accept, checkChange_checked, routed, beginEvaluation, Session.issueTicket, known]
      rfl
  | _ => simp [EditorEvent.changes] at here

theorem handleEvent_elsewhere (settled : Settled engine) {document : DocumentId}
    (elsewhere : engine.watched? ≠ some document) (changes : List TextChange) :
    engine.handleEvent setup (.changed document changes) =
      (engine.checked setup (.changed document changes),
        { grammar := checkOf setup engine.workspace (.changed document changes) }) := by
  have still : Settled (engine.checked setup (.changed document changes)) :=
    settled_checked settled
  have routed := dispatch_elsewhere still elsewhere changes
  simp only [handleEvent, accept, checkChange_checked, routed, finish]

theorem handleEvent_unwatched (settled : Settled engine) (writable : Writable engine)
    (elsewhere : event.changes engine.watched? = false) :
    engine.handleEvent setup event =
      (engine.checked setup event, { grammar := checkOf setup engine.workspace event }) := by
  simp only [handleEvent, accept_unwatched settled writable elsewhere, finish]

theorem handleEvent_watched (settled : Settled engine)
    (installed : engine.session.watch = some watch) (here : event.changes engine.watched? = true) :
    engine.handleEvent setup event =
      ((((engine.checked setup event).issued watch).completeEvaluation setup
          (nextTicket watch event)).1,
        { grammar := checkOf setup engine.workspace event
          evaluation := some (((engine.checked setup event).issued watch).completeEvaluation setup
            (nextTicket watch event)).2 }) := by
  simp only [handleEvent, accept_watched settled installed here, finish]

theorem acceptAll_cons (rest : List EditorEvent) :
    engine.acceptAll setup (event :: rest) =
      (((engine.accept setup event).1.acceptAll setup rest).1,
        (engine.accept setup event).2 :: ((engine.accept setup event).1.acceptAll setup rest).2) :=
  rfl

theorem acceptAll_watch (setup : Setup Page) (settled : Settled engine) (writable : Writable engine)
    (installed : engine.session.watch = some watch) (events : List EditorEvent) :
    ∃ number, (engine.acceptAll setup events).1.session.watch =
      some { watch with revision := watch.revision + number } := by
  induction events generalizing engine watch with
  | nil => exact ⟨0, installed⟩
  | cons event rest ih =>
      rw [acceptAll_cons]
      have known : (engine.checked setup event).session.watch = some watch := by
        rw [checked_session, installed]
      have checkedSettled : Settled (engine.checked setup event) := settled_checked settled
      have checkedWritable : Writable (engine.checked setup event) := writable_checked writable
      cases here : event.changes engine.watched? with
      | false =>
          rw [accept_unwatched settled writable here]
          exact ih checkedSettled checkedWritable known
      | true =>
          rw [accept_watched settled installed here]
          obtain ⟨number, later⟩ := ih (settled_issued checkedSettled known)
            (writable_issued checkedWritable known) rfl
          refine ⟨number + 1, ?_⟩
          rw [later]
          simp only [Nat.add_assoc, Nat.add_comm 1 number]

theorem superseded_after (settled : Settled engine) (writable : Writable engine)
    (accepted : engine.session.checkTicket ticket = .ok watch)
    (here : event.changes engine.watched? = true) (rest : List EditorEvent) :
    (engine.acceptAll setup (event :: rest)).1.session.checkTicket ticket =
      .error .superseded := by
  have installed := Session.watch_of_checkTicket accepted
  have known : (engine.checked setup event).session.watch = some watch := by
    rw [checked_session, installed]
  rw [acceptAll_cons, accept_watched settled installed here]
  obtain ⟨number, later⟩ := acceptAll_watch setup
    (settled_issued (settled_checked settled) known)
    (writable_issued (writable_checked writable) known) rfl rest
  simp only [Session.checkTicket, installed] at accepted
  split at accepted
  · contradiction
  · rename_i generation
    split at accepted
    · contradiction
    · rename_i revision
      simp only [ne_eq, Decidable.not_not] at generation revision
      have passed : watch.revision + 1 + number ≠ ticket.revision := by omega
      simp [Session.checkTicket, later, generation, passed]

theorem completeEvaluation_checked (accepted : engine.session.checkTicket ticket = .ok watch) :
    ((engine.checked setup event).completeEvaluation setup ticket).2 =
      (engine.completeEvaluation setup ticket).2 := by
  have next : (engine.checked setup event).session.checkTicket ticket = .ok watch := by
    rw [checked_session, accepted]
  rw [completeEvaluation_effect next, completeEvaluation_effect accepted, checked_workspace]

end Engine

end LiveSelector
