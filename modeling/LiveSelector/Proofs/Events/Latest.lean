import LiveSelector.Proofs.Events.Taken
import LiveSelector.Proofs.Journal.Trails
import LiveSelector.Proofs.Session.Pages
import LiveSelector.Proofs.Session.Tickets

namespace LiveSelector

/-! Of several changes taken together the latest counts.  What an event is answered is settled by the
events before it when it is taken, and by all of them when its ticket is completed: the tickets are
stale if the watch has ended by then, and otherwise all but the last one are superseded. -/

variable {Page : Type} {setup : Setup Page} {engine : Engine Page} {watch : Watch Page}
variable {event : EditorEvent} {events : List EditorEvent} {index later : Nat}
variable {entries : List (HandledEvent × Option Ticket)}

namespace Engine

open EditorEvent

theorem getElem?_finishAll (entries : List (HandledEvent × Option Ticket)) (index : Nat) :
    (engine.finishAll setup entries).2[index]? = entries[index]?.map fun entry =>
      ((engine.finishAll setup (entries.take index)).1.finish setup entry.1 entry.2).2 := by
  induction entries generalizing engine index with
  | nil => rfl
  | cons entry rest ih =>
      cases index with
      | zero => rfl
      | succ index => exact ih index

theorem finishAll_length (entries : List (HandledEvent × Option Ticket)) :
    (engine.finishAll setup entries).2.length = entries.length := by
  induction entries generalizing engine with
  | nil => rfl
  | cons entry rest ih => exact congrArg (· + 1) ih

/-- A ticket, if there is one, is refused. -/
def Refused (session : Session Page) (pending : Option Ticket) : Prop :=
  ∀ ticket, pending = some ticket → ∃ reason, session.checkTicket ticket = .error reason

theorem finish_refused (setup : Setup Page) {pending : Option Ticket}
    (refused : Refused engine.session pending) (handled : HandledEvent) :
    (engine.finish setup handled pending).1 = engine ∧
      ∀ other, engine.finish other handled pending = engine.finish setup handled pending := by
  cases pending with
  | none => exact ⟨rfl, fun _ => rfl⟩
  | some ticket =>
      obtain ⟨reason, turned⟩ := refused ticket rfl
      simp only [finish, completeEvaluation_refused turned]
      exact ⟨trivial, fun _ => trivial⟩

theorem finishAll_refused (setup : Setup Page) (entries : List (HandledEvent × Option Ticket))
    (refused : ∀ entry ∈ entries, Refused engine.session entry.2) :
    (engine.finishAll setup entries).1 = engine ∧
      ∀ other, engine.finishAll other entries = engine.finishAll setup entries := by
  induction entries with
  | nil => exact ⟨rfl, fun _ => rfl⟩
  | cons entry rest ih =>
      obtain ⟨first, others⟩ := List.forall_mem_cons.mp refused
      obtain ⟨here, alike⟩ := finish_refused setup first entry.1
      obtain ⟨later, allAlike⟩ := ih others
      refine ⟨?_, fun other => ?_⟩
      · simp only [finishAll, here, later]
      · simp only [finishAll, alike other, here, allAlike other]

theorem finishAll_only {handled : HandledEvent} {ticket : Ticket}
    (here : entries[index]? = some (handled, some ticket))
    (refused : ∀ place entry, entries[place]? = some entry → place ≠ index →
      Refused engine.session entry.2) :
    (engine.finishAll setup entries).1 = (engine.completeEvaluation setup ticket).1 := by
  induction entries generalizing index with
  | nil => cases here
  | cons entry rest ih =>
      cases index with
      | zero =>
          cases here
          have others : ∀ entry ∈ rest,
              Refused (engine.completeEvaluation setup ticket).1.session entry.2 := by
            intro entry member
            obtain ⟨place, there⟩ := List.mem_iff_getElem?.mp member
            rw [completeEvaluation_session]
            exact refused (place + 1) entry there (Nat.succ_ne_zero place)
          exact (finishAll_refused setup rest others).1
      | succ index =>
          have first : (engine.finish setup entry.1 entry.2).1 = engine :=
            (finish_refused setup (refused 0 entry rfl (Nat.succ_ne_zero index).symm) entry.1).1
          have later := ih here fun place other there different =>
            refused (place + 1) other there (by omega)
          simp only [finishAll, first, later]

theorem effectOf_report (setup : Setup Page) (workspace : Workspace) (watch : Watch Page)
    (changedLine : Nat) :
    (effectOf setup workspace watch changedLine).report ≠ .discarded .stale ∧
      (effectOf setup workspace watch changedLine).report ≠ .discarded .superseded := by
  simp only [effectOf]
  split
  · simp
  · split
    · split
      · simp
      · simp
    · split
      · simp
      · simp

/-- Once a whole row of events is taken, the ticket of its last change is good and those of the others
are superseded. -/
theorem checkTicket_rowTicket {session : Session Page}
    (known : session.watch = some (watch.numbered (countChanges watch.document events)))
    (here : events[index]? = some event) (changes : event.changes (some watch.document) = true) :
    session.checkTicket (rowTicket watch events index event) =
      if countChanges watch.document (events.take (index + 1)) = countChanges watch.document events
      then .ok (watch.numbered (countChanges watch.document events)) else .error .superseded := by
  rw [Session.checkTicket_of_watch known rfl, rowTicket_revision here changes]
  simp [Watch.numbered]

/-- What becomes of a row of events that ends a watch at one place. -/
structure LeftAt (setup : Setup Page) (engine : Engine Page) (watch : Watch Page)
    (events : List EditorEvent) (place : Nat) : Prop where
  /-- The changes before that place come to nothing. -/
  stale : ∀ index answer, (engine.handleEvents setup events).2[index]? = some answer →
    inTime watch.document (some place) events index = true →
    answer.evaluation = some (.discarded .stale)
  /-- No selector is evaluated: how selectors evaluate makes no difference, nor do pages. -/
  unevaluated : ∀ other : Setup Page, other.config = setup.config →
    other.selector.parse = setup.selector.parse →
    engine.handleEvents other events = engine.handleEvents setup events
  unwritten : (engine.handleEvents setup events).1.workspace = engine.workspace
  ready : (engine.handleEvents setup events).1.session.state = .ready
  idle : (engine.handleEvents setup events).1.session.watch = none

/-- What becomes of a row of events that leaves a watch in place. -/
structure LatestCounts (setup : Setup Page) (engine : Engine Page) (watch : Watch Page)
    (events : List EditorEvent) : Prop where
  /-- A change before another one is superseded. -/
  superseded : ∀ index answer, (engine.handleEvents setup events).2[index]? = some answer →
    inTime watch.document none events index = true →
    (∃ later, index < later ∧ inTime watch.document none events later = true) →
    answer.evaluation = some (.discarded .superseded)
  /-- The last change has the present text evaluated, once all events are taken, with the line of
  that change, and there is no other evaluation. -/
  latest : ∀ index event answer, events[index]? = some event →
    (engine.handleEvents setup events).2[index]? = some answer →
    inTime watch.document none events index = true →
    (∀ later, inTime watch.document none events later = true → later ≤ index) →
    let effect := effectOf setup engine.workspace watch (event.changedLine?.getD 0)
    answer.evaluation = some effect.report ∧ effect.report ≠ .discarded .stale ∧
      effect.report ≠ .discarded .superseded ∧
      (engine.handleEvents setup events).1 =
        (engine.acceptAll setup events).1.absorb watch.document effect
  /-- The tickets that the watch has issued before are superseded if there is a change, and those of
  other watches remain stale. -/
  outstanding : ∀ ticket index, inTime watch.document none events index = true →
    (ticket.generation = watch.generation → ticket.revision ≤ watch.revision →
      (engine.handleEvents setup events).1.session.checkTicket ticket = .error .superseded) ∧
    (ticket.generation ≠ watch.generation →
      (engine.handleEvents setup events).1.session.checkTicket ticket = .error .stale)

theorem handleEvents_length (setup : Setup Page) (engine : Engine Page)
    (events : List EditorEvent) :
    (engine.handleEvents setup events).2.length = events.length :=
  (finishAll_length _).trans (acceptAll_length events)

/-- What an event of a row is answered: whether the watch ends with it, and what becomes of its ticket if
it is a change in time. -/
theorem answer_of_row (settled : Settled engine) (installed : engine.session.watch = some watch)
    {answer : HandledEvent}
    (answered : (engine.handleEvents setup events).2[index]? = some answer) :
    let stop := stopAt? (engine.workspace.isOpen watch.output.id) events
    let before := (engine.acceptAll setup events).1.finishAll setup
      ((engine.acceptAll setup events).2.take index)
    ∃ event, events[index]? = some event ∧ answer.stopped = decide (stop = some index) ∧
      answer.evaluation =
        if inTime watch.document stop events index then
          some (before.1.completeEvaluation setup (rowTicket watch events index event)).2
        else none := by
  intro stop before
  have place : index < events.length := by
    rw [← handleEvents_length setup engine]
    exact (List.getElem?_eq_some_iff.mp answered).1
  have here := List.getElem?_eq_getElem place
  obtain ⟨grammar, entry⟩ := acceptAll_entry setup settled installed here
  change ((engine.acceptAll setup events).1.finishAll setup
    (engine.acceptAll setup events).2).2[index]? = _ at answered
  rw [getElem?_finishAll, entry, Option.map_some, Option.some.injEq] at answered
  subst answered
  refine ⟨events[index], here, finish_stopped _ _, ?_⟩
  split
  · rfl
  · rfl

theorem leftAt {place : Nat} (settled : Settled engine)
    (installed : engine.session.watch = some watch)
    (ended : stopAt? (engine.workspace.isOpen watch.output.id) events = some place) :
    LeftAt setup engine watch events place := by
  obtain ⟨still, same, gone⟩ := acceptAll_taken setup settled installed events
  simp only [ended, Option.isSome_some, if_true] at gone
  have stale : ∀ ticket, (engine.acceptAll setup events).1.session.checkTicket ticket =
      .error .stale := by
    intro ticket
    simp only [Session.checkTicket, gone]
  obtain ⟨after, alike⟩ := finishAll_refused setup (engine.acceptAll setup events).2
    fun _ _ ticket _ => ⟨_, stale ticket⟩
  change (engine.handleEvents setup events).1 = _ at after
  refine ⟨?_, ?_, ?_, ?_, ?_⟩
  · intro index answer answered timely
    obtain ⟨event, _, _, evaluated⟩ := answer_of_row settled installed answered
    have session := finishAll_session setup (engine.acceptAll setup events).1
      ((engine.acceptAll setup events).2.take index)
    rw [evaluated, ended, if_pos timely, completeEvaluation_refused (session ▸ stale _)]
  · intro other config parse
    have accepted := acceptAll_parse engine config parse events
    simp only [handleEvents, accepted, alike other]
  · rw [after, same]
  · rw [after, still.state_eq]
    simp [Session.isWatching, gone]
  · rw [after, gone]

theorem watch_of_lasting (setup : Setup Page) (settled : Settled engine)
    (installed : engine.session.watch = some watch)
    (lasting : stopAt? (engine.workspace.isOpen watch.output.id) events = none) :
    (engine.acceptAll setup events).1.session.watch =
      some (watch.numbered (countChanges watch.document events)) := by
  obtain ⟨_, _, known⟩ := acceptAll_taken setup settled installed events
  rw [known, lasting]
  rfl

theorem superseded_by_later (setup : Setup Page) (settled : Settled engine)
    (installed : engine.session.watch = some watch)
    (lasting : stopAt? (engine.workspace.isOpen watch.output.id) events = none)
    (here : events[index]? = some event) (timely : inTime watch.document none events index = true)
    (again : inTime watch.document none events later = true) (less : index < later) :
    (engine.acceptAll setup events).1.session.checkTicket (rowTicket watch events index event) =
      .error .superseded := by
  obtain ⟨other, there, changes⟩ := change_of_inTime again
  have fewer := countChanges_take_lt there changes less
  rw [checkTicket_rowTicket (watch_of_lasting setup settled installed lasting) here
    ((inTime_iff here).mp timely).1, if_neg (Nat.ne_of_lt fewer)]

theorem accepted_of_last (setup : Setup Page) (settled : Settled engine)
    (installed : engine.session.watch = some watch)
    (lasting : stopAt? (engine.workspace.isOpen watch.output.id) events = none)
    (here : events[index]? = some event) (timely : inTime watch.document none events index = true)
    (last : ∀ later, inTime watch.document none events later = true → later ≤ index) :
    (engine.acceptAll setup events).1.session.checkTicket (rowTicket watch events index event) =
      .ok (watch.numbered (countChanges watch.document events)) := by
  have all : countChanges watch.document (events.take (index + 1)) =
      countChanges watch.document events :=
    countChanges_take_last fun later other there changes =>
      last later ((inTime_iff there).mpr ⟨changes, by simp⟩)
  rw [checkTicket_rowTicket (watch_of_lasting setup settled installed lasting) here
    ((inTime_iff here).mp timely).1, if_pos all]

/-- Of all tickets only that of the last change is not refused. -/
theorem refused_but_last (setup : Setup Page) (settled : Settled engine)
    (installed : engine.session.watch = some watch)
    (lasting : stopAt? (engine.workspace.isOpen watch.output.id) events = none)
    (timely : inTime watch.document none events index = true)
    (last : ∀ later, inTime watch.document none events later = true → later ≤ index) (place : Nat)
    (entry : HandledEvent × Option Ticket)
    (there : (engine.acceptAll setup events).2[place]? = some entry) (different : place ≠ index) :
    Refused (engine.acceptAll setup events).1.session entry.2 := by
  intro ticket pending
  obtain ⟨other, known, earlier, rfl⟩ := ticket_of_entry settled installed there pending
  rw [lasting] at earlier
  have less := last place earlier
  exact ⟨_, superseded_by_later setup settled installed lasting known earlier timely (by omega)⟩

theorem completeEvaluation_last (setup : Setup Page) (settled : Settled engine)
    (installed : engine.session.watch = some watch)
    (lasting : stopAt? (engine.workspace.isOpen watch.output.id) events = none)
    (here : events[index]? = some event) (timely : inTime watch.document none events index = true)
    (last : ∀ later, inTime watch.document none events later = true → later ≤ index) :
    let effect := effectOf setup engine.workspace watch (event.changedLine?.getD 0)
    (engine.acceptAll setup events).1.completeEvaluation setup
        (rowTicket watch events index event) =
      ((engine.acceptAll setup events).1.absorb watch.document effect, effect.report) := by
  have good := accepted_of_last setup settled installed lasting here timely last
  obtain ⟨_, same, _⟩ := acceptAll_taken setup settled installed events
  rw [completeEvaluation_effect good, same]
  rfl

theorem latestCounts (settled : Settled engine) (installed : engine.session.watch = some watch)
    (lasting : stopAt? (engine.workspace.isOpen watch.output.id) events = none) :
    LatestCounts setup engine watch events := by
  have session : ∀ entries, ((engine.acceptAll setup events).1.finishAll setup entries).1.session =
      (engine.acceptAll setup events).1.session := finishAll_session setup _
  have known := watch_of_lasting setup settled installed lasting
  refine ⟨?_, ?_, ?_⟩
  · rintro index answer answered timely ⟨later, less, again⟩
    obtain ⟨event, here, _, evaluated⟩ := answer_of_row settled installed answered
    have refused := superseded_by_later setup settled installed lasting here timely again less
    rw [← session] at refused
    rw [evaluated, lasting, if_pos timely, completeEvaluation_refused refused]
  · intro index event answer here answered timely last effect
    obtain ⟨_, there, _, evaluated⟩ := answer_of_row settled installed answered
    cases there.symm.trans here
    obtain ⟨_, entry⟩ := acceptAll_entry setup settled installed here
    rw [lasting, if_pos timely] at entry
    have others := refused_but_last setup settled installed lasting timely last
    have done := completeEvaluation_last setup settled installed lasting here timely last
    -- When the last change has its turn nothing has been done yet.
    have before : ((engine.acceptAll setup events).1.finishAll setup
        ((engine.acceptAll setup events).2.take index)).1 = (engine.acceptAll setup events).1 := by
      refine (finishAll_refused setup _ fun other member => ?_).1
      obtain ⟨place, less, rfl⟩ := List.mem_take_iff_getElem.mp member
      exact others place _ (List.getElem?_eq_getElem _) (by omega)
    rw [evaluated, lasting, if_pos timely, before, done]
    obtain ⟨notStale, notSuperseded⟩ :=
      effectOf_report setup engine.workspace watch (event.changedLine?.getD 0)
    exact ⟨rfl, notStale, notSuperseded,
      (finishAll_only entry others).trans (congrArg Prod.fst done)⟩
  · intro ticket index timely
    change (_ → _ → Session.checkTicket (finishAll setup _ _).1.session _ = _) ∧
      (_ → Session.checkTicket (finishAll setup _ _).1.session _ = _)
    rw [session]
    obtain ⟨event, here, changes⟩ := change_of_inTime timely
    refine ⟨fun generation issued => ?_, fun generation => ?_⟩
    · have counted : 0 < countChanges watch.document events :=
        List.countP_pos_iff.mpr ⟨event, List.mem_of_getElem? here, changes⟩
      rw [Session.checkTicket_of_watch known generation, if_neg]
      simp only [Watch.numbered]
      omega
    · simp [Session.checkTicket, known, Watch.numbered, Ne.symm generation]

/-- Of events taken together while there is a watch every one is answered, the changes of the watched
document with an evaluation unless they come after the end of the watch.  The watch ends at the first
event that is no change if its output is closed; then nothing is evaluated.  If it does not end, the
last change is the one whose evaluation counts. -/
theorem latest_change_counts {workspace : Workspace} {run : List (Setup Page × Operation)}
    (reached : engine = (new workspace).performAll run)
    (installed : engine.session.watch = some watch) (events : List EditorEvent) :
    let stop := stopAt? (engine.workspace.isOpen watch.output.id) events
    let answers := (engine.handleEvents setup events).2
    answers.length = events.length ∧
      (∀ index answer, answers[index]? = some answer →
        answer.evaluation.isSome = inTime watch.document stop events index ∧
          answer.stopped = decide (stop = some index)) ∧
      (∀ place, stop = some place → LeftAt setup engine watch events place) ∧
      (stop = none → LatestCounts setup engine watch events) := by
  intro stop answers
  have settled : Settled engine := by
    rw [reached]
    exact settled_performAll (settled_new workspace) run
  refine ⟨handleEvents_length setup engine events, fun index answer answered => ?_,
    fun place => leftAt settled installed, latestCounts settled installed⟩
  obtain ⟨event, _, stopped, evaluated⟩ := answer_of_row settled installed answered
  refine ⟨?_, stopped⟩
  rw [evaluated]
  split
  · rename_i timely
    exact timely.symm
  · rename_i late
    exact (Bool.eq_false_iff.mpr late).symm

/-- A watch with a ticket outstanding. -/
def ticketRun : List (Setup Unit × Operation) :=
  restartRun.take 4

/-- A row of events with a change before and a change after one that is no change. -/
def mixedEvents : List EditorEvent :=
  [.changed ⟨"s.temme"⟩ [], .visibleChanged, .changed ⟨"s.temme"⟩ []]

/-- The same watch once its output is closed. -/
def closedRun : List (Setup Unit × Operation) :=
  ticketRun ++ [(quietSetup, .host (.close ⟨"s.temme.json"⟩))]

/-- While the output is open the last change of the row counts; once it is closed, the change before
the end of the watch is stale. -/
theorem latest_change_counts_in_mixed_row :
    let engine := (new (.onDisk sampleDisk)).performAll ticketRun
    let closed := (new (.onDisk sampleDisk)).performAll closedRun
    (engine.handleEvents quietSetup mixedEvents).2[0]?.map (·.evaluation) =
        some (some (.discarded .superseded)) ∧
      (engine.handleEvents quietSetup mixedEvents).2[2]?.map (·.evaluation) =
        some (some .written) ∧
      (engine.handleEvents quietSetup mixedEvents).1.session.checkTicket ⟨1, 2, 4⟩ =
        .error .superseded ∧
      (closed.handleEvents quietSetup mixedEvents).2[0]?.map (·.evaluation) =
        some (some (.discarded .stale)) ∧
      (closed.handleEvents quietSetup mixedEvents).1.session.state = .ready := by
  intro engine closed
  have reached : engine = (new (.onDisk sampleDisk)).performAll ticketRun := rfl
  have counts : LatestCounts quietSetup engine _ mixedEvents :=
    (latest_change_counts reached rfl mixedEvents).2.2.2 (by decide +kernel)
  have first := counts.superseded 0 _ rfl (by decide +kernel) ⟨2, by decide, by decide +kernel⟩
  have last := counts.latest 2 _ _ rfl rfl (by decide +kernel) fun later timely => by
    obtain ⟨_, there, _⟩ := change_of_inTime timely
    exact Nat.le_of_lt_succ (List.getElem?_eq_some_iff.mp there).1
  have outstanding := counts.outstanding ⟨1, 2, 4⟩ 0 (by decide +kernel)
  have reachedClosed : closed = (new (.onDisk sampleDisk)).performAll closedRun := rfl
  have left : LeftAt quietSetup closed _ mixedEvents 1 :=
    (latest_change_counts reachedClosed rfl mixedEvents).2.2.1 1 (by decide +kernel)
  have stale := left.stale 0 _ rfl (by decide +kernel)
  exact ⟨congrArg some first, congrArg some last.1, outstanding.1 rfl (by decide +kernel),
    congrArg some stale, left.ready⟩

end Engine

end LiveSelector
