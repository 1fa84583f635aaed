import LiveSelector.Proofs.Events.Deferral
import LiveSelector.Proofs.Session.Tickets

namespace LiveSelector.Engine

/-! Events taken together and events taken one by one.  Together, all changes are checked and get
their tickets before the last ticket is completed; one by one, every ticket is completed at once.
Both come to the same, but for what the user hears about results that could not be written. -/

variable {Page : Type} {setup : Setup Page} {engine batch plain : Engine Page}
variable {watch : Watch Page} {event : EditorEvent} {pending : Option Ticket} {ticket : Ticket}

/-- An engine that has handled several events one after the other. -/
def handleEach (setup : Setup Page) (engine : Engine Page) :
    List EditorEvent → Engine Page × List HandledEvent
  | [] => (engine, [])
  | event :: rest =>
    match engine.handleEvent setup event with
    | (after, first) =>
      match handleEach setup after rest with
      | (last, others) => (last, first :: others)

theorem handleEach_cons (rest : List EditorEvent) :
    engine.handleEach setup (event :: rest) =
      (((engine.handleEvent setup event).1.handleEach setup rest).1,
        (engine.handleEvent setup event).2 ::
          ((engine.handleEvent setup event).1.handleEach setup rest).2) :=
  rfl

theorem finishAll_cons (handled : HandledEvent) (rest : List (HandledEvent × Option Ticket)) :
    engine.finishAll setup ((handled, pending) :: rest) =
      (((engine.finish setup handled pending).1.finishAll setup rest).1,
        (engine.finish setup handled pending).2 ::
          ((engine.finish setup handled pending).1.finishAll setup rest).2) :=
  rfl

/-- How the answers to events taken together compare with the answers to the same events taken one
by one.  The checks are the same.  Of the changes of the watched document all but the last are
superseded when they are taken together, and the last one's reports compare as those of an evaluation
that is done once with those of one that may be `repeated`. -/
inductive Agree (watched : Option DocumentId) :
    Bool → List EditorEvent → List HandledEvent → List HandledEvent → Prop where
  | nil {repeated : Bool} : Agree watched repeated [] [] []
  | elsewhere {repeated : Bool} {event : EditorEvent} {rest : List EditorEvent}
      {together single : List HandledEvent} (check : Option GrammarCheck)
      (other : event.changes watched = false) (later : Agree watched repeated rest together single) :
      Agree watched repeated (event :: rest) ({ grammar := check } :: together)
        ({ grammar := check } :: single)
  | superseded {repeated : Bool} {event : EditorEvent} {rest : List EditorEvent}
      {together single : List HandledEvent} (check : Option GrammarCheck)
      (report : EvaluationReport) (here : event.changes watched = true)
      (again : rest.any (·.changes watched) = true)
      (later : Agree watched true rest together single) :
      Agree watched repeated (event :: rest)
        ({ grammar := check, evaluation := some (.discarded .superseded) } :: together)
        ({ grammar := check, evaluation := some report } :: single)
  | last {repeated : Bool} {event : EditorEvent} {rest : List EditorEvent}
      {together single : List HandledEvent} (check : Option GrammarCheck)
      (once last : EvaluationReport) (here : event.changes watched = true)
      (final : rest.any (·.changes watched) = false) (compares : Compares repeated once last)
      (later : Agree watched true rest together single) :
      Agree watched repeated (event :: rest)
        ({ grammar := check, evaluation := some once } :: together)
        ({ grammar := check, evaluation := some last } :: single)

/-- The answer to an event whose ticket waits while others are taken. -/
def awaited (setup : Setup Page) (engine : Engine Page) (handled : HandledEvent)
    (pending : Option Ticket) (events : List EditorEvent) : HandledEvent :=
  match pending with
  | none => handled
  | some ticket =>
    { handled with
      evaluation := some
        (if events.any (·.changes engine.watched?) then .discarded .superseded
        else (engine.completeEvaluation setup ticket).2) }

/-- A ticket that waits is superseded by the next change of the watched document. -/
theorem finish_after_change (meets : Meets setup batch plain pending)
    (here : event.changes batch.watched? = true) (rest : List EditorEvent)
    (handled : HandledEvent) :
    (batch.acceptAll setup (event :: rest)).1.finish setup handled pending =
      ((batch.acceptAll setup (event :: rest)).1,
        batch.awaited setup handled pending (event :: rest)) := by
  cases pending with
  | none => rfl
  | some ticket =>
      obtain ⟨watch, accepted⟩ := meets.good ticket rfl
      have late : (batch.acceptAll setup (event :: rest)).1.session.checkTicket ticket =
          .error .superseded :=
        superseded_after meets.settled meets.writable accepted here rest
      simp only [finish, completeEvaluation_refused late, awaited, List.any_cons, here,
        Bool.true_or, if_true]

theorem awaited_checked (meets : Meets setup batch plain pending)
    (elsewhere : event.changes batch.watched? = false) (rest : List EditorEvent)
    (handled : HandledEvent) :
    (batch.checked setup event).awaited setup handled pending rest =
      batch.awaited setup handled pending (event :: rest) := by
  cases pending with
  | none => rfl
  | some ticket =>
      obtain ⟨watch, accepted⟩ := meets.good ticket rfl
      simp only [awaited, watched?_checked, completeEvaluation_checked accepted, List.any_cons,
        elsewhere, Bool.false_or]

/-- Engines that meet still do after any events, once what was put off is done. -/
theorem meets_events (meets : Meets setup batch plain pending) (events : List EditorEvent)
    (untouched : Untouched batch events) (handled : HandledEvent) :
    Matches
        (((batch.acceptAll setup events).1.finish setup handled pending).1.finishAll setup
          (batch.acceptAll setup events).2).1
        (plain.handleEach setup events).1 ∧
      Agree batch.watched? pending.isSome events
        (((batch.acceptAll setup events).1.finish setup handled pending).1.finishAll setup
          (batch.acceptAll setup events).2).2
        (plain.handleEach setup events).2 ∧
      ((batch.acceptAll setup events).1.finish setup handled pending).2 =
        batch.awaited setup handled pending events := by
  induction events generalizing batch plain pending handled with
  | nil =>
      cases pending with
      | none => exact ⟨meets.same, .nil, rfl⟩
      | some ticket => exact ⟨meets.same, .nil, rfl⟩
  | cons event rest ih =>
      have remaining : Untouched (batch.checked setup event) rest := untouched.checked
      have watched : plain.watched? = batch.watched? := by
        simp only [watched?, meets.session]
      have found := meets.checkOf untouched.head
      rw [acceptAll_cons, handleEach_cons]
      cases here : event.changes batch.watched? with
      | false =>
          have elsewhere : event.changes plain.watched? = false := by rw [watched, here]
          obtain ⟨same, agree, waited⟩ :=
            ih (meets_unwatched meets here untouched.head) remaining handled
          rw [watched?_checked] at agree
          rw [accept_unwatched meets.settled meets.writable here,
            handleEvent_unwatched meets.plain_settled meets.plain_writable elsewhere, found]
          exact ⟨same, .elsewhere _ here agree, waited.trans (awaited_checked meets here rest handled)⟩
      | true =>
          obtain ⟨watch, installed⟩ := installed_of_changes here
          have known : (batch.checked setup event).session.watch = some watch := by
            rw [checked_session, installed]
          have plainInstalled : plain.session.watch = some watch := by
            rw [meets.session, installed]
          have plainHere : event.changes plain.watched? = true := by rw [watched, here]
          obtain ⟨next, compares⟩ := meets_watched meets installed here
          obtain ⟨same, agree, waited⟩ := ih next (remaining.issued known)
            { grammar := checkOf setup batch.workspace event }
          rw [watched?_issued known, watched?_checked] at agree
          have waiting := finish_after_change meets here rest handled
          rw [acceptAll_cons, accept_watched meets.settled installed here] at waiting
          rw [accept_watched meets.settled installed here,
            handleEvent_watched meets.plain_settled plainInstalled plainHere, found]
          simp only at waiting ⊢
          rw [waiting, finishAll_cons, waited]
          refine ⟨same, ?_, rfl⟩
          -- Whether the ticket of this change is the last one is up to the changes that follow.
          simp only [awaited, watched?_issued known, watched?_checked]
          cases again : rest.any (·.changes batch.watched?) with
          | true => exact .superseded _ _ here again agree
          | false => exact .last _ _ _ here again compares agree

/-- What the user is told of the results that could not be written. -/
def failures (answers : List HandledEvent) : List Notice :=
  answers.flatMap fun handled => (handled.evaluation.map writeErrors).getD []

theorem finish_notices (setup : Setup Page) (engine : Engine Page) (pending : Option Ticket)
    {handled : HandledEvent} (unanswered : handled.evaluation = none) :
    (engine.finish setup handled pending).1.journal.notices =
      engine.journal.notices ++ failures [(engine.finish setup handled pending).2] := by
  cases pending with
  | none => simp [finish, failures, unanswered]
  | some ticket =>
      cases checked : engine.session.checkTicket ticket with
      | error reason =>
          simp [finish, completeEvaluation_refused checked, failures, writeErrors]
      | ok watch =>
          simp [finish, completeEvaluation_effect checked, failures, absorb, effectOf_notices]

theorem finishAll_notices (setup : Setup Page) (engine : Engine Page)
    (entries : List (HandledEvent × Option Ticket))
    (unanswered : ∀ entry ∈ entries, entry.1.evaluation = none) :
    (engine.finishAll setup entries).1.journal.notices =
      engine.journal.notices ++ failures (engine.finishAll setup entries).2 := by
  induction entries generalizing engine with
  | nil => simp [finishAll, failures]
  | cons entry rest ih =>
      obtain ⟨handled, pending⟩ := entry
      have first : (engine.finish setup handled pending).1.journal.notices =
          engine.journal.notices ++ failures [(engine.finish setup handled pending).2] :=
        finish_notices setup engine pending (unanswered (handled, pending) (by simp))
      have others := ih (engine.finish setup handled pending).1
        fun entry member => unanswered entry (List.mem_cons_of_mem _ member)
      rw [finishAll_cons, others, first]
      simp [failures]

/-- Taking an event tells the user nothing as long as the output is open. -/
theorem accept_steady (setup : Setup Page) (event : EditorEvent) (settled : Settled engine)
    (writable : Writable engine) :
    Settled (engine.accept setup event).1 ∧ Writable (engine.accept setup event).1 ∧
      (engine.accept setup event).1.journal.notices = engine.journal.notices ∧
      (engine.accept setup event).2.1.evaluation = none := by
  have told : (engine.checked setup event).journal.notices = engine.journal.notices := by
    cases event with
    | _ => rfl
  have checkedSettled : Settled (engine.checked setup event) := settled_checked settled
  have checkedWritable : Writable (engine.checked setup event) := writable_checked writable
  cases here : event.changes engine.watched? with
  | false =>
      rw [accept_unwatched settled writable here]
      exact ⟨checkedSettled, checkedWritable, told, rfl⟩
  | true =>
      obtain ⟨watch, installed⟩ := installed_of_changes here
      have there : (engine.checked setup event).session.watch = some watch := by
        rw [checked_session, installed]
      rw [accept_watched settled installed here]
      exact ⟨settled_issued checkedSettled there, writable_issued checkedWritable there, told, rfl⟩

theorem acceptAll_steady (setup : Setup Page) (settled : Settled engine)
    (writable : Writable engine) (events : List EditorEvent) :
    (engine.acceptAll setup events).1.journal.notices = engine.journal.notices ∧
      ∀ entry ∈ (engine.acceptAll setup events).2, entry.1.evaluation = none := by
  induction events generalizing engine with
  | nil => exact ⟨rfl, fun entry member => by cases member⟩
  | cons event rest ih =>
      obtain ⟨settledNext, writableNext, told, unanswered⟩ :=
        accept_steady setup event settled writable
      obtain ⟨toldAfter, others⟩ := ih settledNext writableNext
      rw [acceptAll_cons]
      refine ⟨toldAfter.trans told, fun entry member => ?_⟩
      rcases List.mem_cons.mp member with rfl | later
      · exact unanswered
      · exact others entry later

theorem finish_steady (setup : Setup Page) (pending : Option Ticket) (settled : Settled engine)
    (writable : Writable engine) (handled : HandledEvent) :
    Settled (engine.finish setup handled pending).1 ∧
      Writable (engine.finish setup handled pending).1 := by
  cases pending with
  | none => exact ⟨settled, writable⟩
  | some ticket =>
      cases checked : engine.session.checkTicket ticket with
      | error reason =>
          simp only [finish, completeEvaluation_refused checked]
          exact ⟨settled, writable⟩
      | ok watch =>
          simp only [finish, completeEvaluation_effect checked]
          refine ⟨settled.of_same rfl rfl, fun other installed => ?_⟩
          simp only [absorb, effectOf_isOpen]
          exact writable other installed

theorem handleEach_notices (settled : Settled engine) (writable : Writable engine)
    (events : List EditorEvent) :
    (engine.handleEach setup events).1.journal.notices =
      engine.journal.notices ++ failures (engine.handleEach setup events).2 := by
  induction events generalizing engine with
  | nil => simp [handleEach, failures]
  | cons event rest ih =>
      obtain ⟨settledNext, writableNext, told, unanswered⟩ :=
        accept_steady setup event settled writable
      obtain ⟨settledAfter, writableAfter⟩ :=
        finish_steady setup (engine.accept setup event).2.2 settledNext writableNext
          (engine.accept setup event).2.1
      have first : (engine.handleEvent setup event).1.journal.notices =
          engine.journal.notices ++ failures [(engine.handleEvent setup event).2] := by
        have finished := finish_notices setup (engine.accept setup event).1
          (engine.accept setup event).2.2 unanswered
        rw [told] at finished
        exact finished
      have others : ((engine.handleEvent setup event).1.handleEach setup rest).1.journal.notices =
          (engine.handleEvent setup event).1.journal.notices ++
            failures ((engine.handleEvent setup event).1.handleEach setup rest).2 :=
        ih settledAfter writableAfter
      rw [handleEach_cons, others, first]
      simp [failures]

/-- Events taken together and the same events taken one by one leave the same engine behind, down to
the disk and the diagnostics, and their answers agree.  What the user is told in between differs by
nothing but the results that could not be written, which one by one may be more. -/
theorem together_agrees_with_single {workspace : Workspace} {run : List (Setup Page × Operation)}
    {events : List EditorEvent} (reached : engine = (new workspace).performAll run)
    (writable : Writable engine) (untouched : Untouched engine events) :
    Matches (engine.handleEvents setup events).1 (engine.handleEach setup events).1 ∧
      Agree engine.watched? false events (engine.handleEvents setup events).2
        (engine.handleEach setup events).2 ∧
      (engine.handleEvents setup events).1.journal.notices =
        engine.journal.notices ++ failures (engine.handleEvents setup events).2 ∧
      (engine.handleEach setup events).1.journal.notices =
        engine.journal.notices ++ failures (engine.handleEach setup events).2 := by
  have settled : Settled engine := by
    rw [reached]
    exact settled_performAll (settled_new workspace) run
  have meets : Meets setup engine engine none :=
    ⟨settled, writable, fun _ waiting => (by cases waiting), .refl engine⟩
  obtain ⟨same, agree, _⟩ := meets_events meets events untouched {}
  obtain ⟨told, unanswered⟩ := acceptAll_steady setup settled writable events
  refine ⟨same, agree, ?_, handleEach_notices settled writable events⟩
  have finished := finishAll_notices setup (engine.acceptAll setup events).1
    (engine.acceptAll setup events).2 unanswered
  rw [told] at finished
  exact finished

/-- A selector behind a path that leads up again. -/
def detour : FilePath := .ofText "a/../b/c/s.temme"

/-- The selector on a disk where the path leads to it. -/
def openDisk : Disk :=
  ⟨[], [([['a']], .directory), ([['b']], .directory), ([['b'], ['c']], .directory),
    ([['b'], ['c'], ['s', '.', 't', 'e', 'm', 'm', 'e']], .file (.text "h1"))]⟩

/-- A disk on which nothing is left of the path and a file is in its way. -/
def blockedDisk : Disk := ⟨[], [([['b']], .file (.text "x"))]⟩

/-- A watch whose output can no longer be written. -/
def blockedRun : List (Setup Unit × Operation) :=
  [.host (.openPath detour), .host (.setActive detour.documentId),
    .startWatch (some (.bare "page")), .host (.disk blockedDisk)].map (quietSetup, ·)

/-- A write that fails can make directories first, and these let the next write fail earlier on its
way: the last report of two changes taken one by one reads other than that of the two taken
together. -/
theorem reports_differ_after_blocked_write :
    let engine := (new (.onDisk openDisk)).performAll blockedRun
    let events := [.changed detour.documentId [], .changed detour.documentId []]
    Writable engine ∧ Untouched engine events ∧
      (engine.handleEvents quietSetup events).2.map (·.evaluation) =
        [some (.discarded .superseded),
          some (.outputFailed
            "cannot write a/../b/c/s.temme.json: File exists (os error 17)")] ∧
      (engine.handleEach quietSetup events).2.map (·.evaluation) =
        [some (.outputFailed "cannot write a/../b/c/s.temme.json: File exists (os error 17)"),
          some (.outputFailed
            "cannot write a/../b/c/s.temme.json: Not a directory (os error 20)")] := by
  decide +kernel

/-- A watch whose document has been edited since it was evaluated. -/
def editedRun : List (Setup Unit × Operation) :=
  [.host (.openPath (.ofText "s.temme")), .host (.setActive ⟨"s.temme"⟩),
    .startWatch (some (.bare "page")), .host (.edit ⟨"s.temme"⟩ "h2")].map (quietSetup, ·)

theorem together_agrees_with_single_after_edit :
    let engine := (new (.onDisk sampleDisk)).performAll editedRun
    let events := [.changed ⟨"s.temme"⟩ [], .visibleChanged, .changed ⟨"s.temme"⟩ []]
    Writable engine ∧ Untouched engine events ∧
      Matches (engine.handleEvents quietSetup events).1 (engine.handleEach quietSetup events).1 := by
  intro engine events
  have writable : Writable engine := by decide +kernel
  have untouched : Untouched engine events := by decide +kernel
  exact ⟨writable, untouched, (together_agrees_with_single rfl writable untouched).1⟩

end LiveSelector.Engine
