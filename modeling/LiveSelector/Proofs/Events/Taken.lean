import LiveSelector.Proofs.Events.Routing

namespace LiveSelector

/-! Taking a row of events, with the output open or closed.  Taking changes no document; it numbers
the tickets of the watch on, one for each of its changes, until the watch ends: at the first event
that is no change, if the output is closed. -/

variable {Page : Type} {setup : Setup Page} {engine : Engine Page} {watch : Watch Page}
variable {event : EditorEvent} {events rest : List EditorEvent} {index later : Nat}
variable {document : DocumentId}

/-- A watch with so many more tickets issued. -/
def Watch.numbered (watch : Watch Page) (count : Nat) : Watch Page :=
  { watch with revision := watch.revision + count }

@[simp] theorem Watch.numbered_document (count : Nat) :
    (watch.numbered count).document = watch.document := rfl

@[simp] theorem Watch.numbered_output (count : Nat) :
    (watch.numbered count).output = watch.output := rfl

theorem Watch.numbered_numbered (first second : Nat) :
    (watch.numbered first).numbered second = watch.numbered (first + second) := by
  simp only [numbered, Nat.add_assoc]

namespace EditorEvent

/-- How many events of a row are changes of a document. -/
def countChanges (document : DocumentId) (events : List EditorEvent) : Nat :=
  events.countP (·.changes (some document))

theorem countChanges_cons (document : DocumentId) (rest : List EditorEvent) :
    countChanges document (event :: rest) =
      countChanges document [event] + countChanges document rest := by
  rw [countChanges, ← List.singleton_append, List.countP_append]
  rfl

/-- Where in a row of events a watch ends, given whether its output is open. -/
def stopAt? (opened : Bool) (events : List EditorEvent) : Option Nat :=
  if opened then none else events.findIdx? (·.kind = .lifecycle)

/-- Whether the event at a place of a row is a change of a document that comes before the end. -/
def inTime (document : DocumentId) (stop : Option Nat) (events : List EditorEvent)
    (index : Nat) : Bool :=
  events[index]?.any (·.changes (some document)) && stop.all (index < ·)

theorem kind_of_changes {document : Option DocumentId} (here : event.changes document = true) :
    event.kind = .change := by
  cases event with
  | changed other changes => rfl
  | _ => cases here

theorem stopAt?_cons (opened : Bool) (rest : List EditorEvent) :
    stopAt? opened (event :: rest) =
      if opened = false ∧ event.kind = .lifecycle then some 0
      else (stopAt? opened rest).map (· + 1) := by
  cases opened with
  | true => rfl
  | false => simp [stopAt?, List.findIdx?_cons]

theorem stopAt?_take (opened : Bool) (events : List EditorEvent) (index : Nat) :
    stopAt? opened (events.take index) =
      (stopAt? opened events).bind (Option.guard (· < index)) := by
  cases opened with
  | true => rfl
  | false => exact List.findIdx?_take

theorem stopAt?_take_eq_some {opened : Bool} {place : Nat} :
    stopAt? opened (events.take index) = some place ↔
      stopAt? opened events = some place ∧ place < index := by
  rw [stopAt?_take, Option.bind_eq_some_iff]
  simp only [Option.guard_eq_some_iff, decide_eq_true_eq]
  grind

/-- A watch that has not ended before an event ends at it if the output is closed and the event is
no change. -/
theorem stopAt?_eq_iff {opened : Bool} (here : events[index]? = some event)
    (before : stopAt? opened (events.take index) = none) :
    stopAt? opened events = some index ↔ opened = false ∧ event.kind = .lifecycle := by
  induction events generalizing index with
  | nil => cases here
  | cons first rest ih =>
      cases index with
      | zero =>
          cases here
          rw [stopAt?_cons]
          split
          · rename_i ends
            exact iff_of_true rfl ends
          · rename_i goes
            exact iff_of_false (by simp) goes
      | succ index =>
          rw [List.take_succ_cons, stopAt?_cons] at before
          rw [stopAt?_cons]
          split at before
          · cases before
          · rename_i goes
            rw [if_neg goes]
            have later := ih here (Option.map_eq_none_iff.mp before)
            simpa using later

theorem inTime_iff {stop : Option Nat} (here : events[index]? = some event) :
    inTime document stop events index = true ↔
      event.changes (some document) = true ∧ ∀ place, stop = some place → index < place := by
  cases stop with
  | none => simp [inTime, here]
  | some place => simp [inTime, here]

theorem inTime_of_ended {opened : Bool} {place : Nat} (here : events[index]? = some event)
    (ended : stopAt? opened events = some place) (earlier : place < index) :
    inTime document (stopAt? opened events) events index = false := by
  refine Bool.eq_false_iff.mpr fun timely => ?_
  have later := ((inTime_iff here).mp timely).2 place ended
  omega

theorem inTime_of_lasting {opened : Bool} (here : events[index]? = some event)
    (before : stopAt? opened (events.take index) = none) :
    inTime document (stopAt? opened events) events index = event.changes (some document) := by
  rw [Bool.eq_iff_iff, inTime_iff here, and_iff_left_iff_imp]
  intro changes place ended
  have late : ¬ place < index := by
    intro earlier
    rw [stopAt?_take_eq_some.mpr ⟨ended, earlier⟩] at before
    cases before
  have different : place ≠ index := by
    rintro rfl
    have lifecycle := ((stopAt?_eq_iff here before).mp ended).2
    rw [kind_of_changes changes] at lifecycle
    cases lifecycle
  omega

theorem change_of_inTime {stop : Option Nat}
    (timely : inTime document stop events index = true) :
    ∃ event, events[index]? = some event ∧ event.changes (some document) = true := by
  simp only [inTime, Bool.and_eq_true, Option.any_eq_true] at timely
  exact timely.1

theorem countChanges_take_succ (document : DocumentId) (here : events[index]? = some event) :
    countChanges document (events.take (index + 1)) =
      countChanges document (events.take index) + countChanges document [event] := by
  rw [List.take_add_one, here]
  exact List.countP_append

theorem countChanges_take_le (document : DocumentId) (events : List EditorEvent) {few many : Nat}
    (within : few ≤ many) :
    countChanges document (events.take few) ≤ countChanges document (events.take many) :=
  (List.take_sublist_take_left within).countP_le

theorem countChanges_take_lt (there : events[later]? = some event)
    (changes : event.changes (some document) = true) (less : index < later) :
    countChanges document (events.take (index + 1)) < countChanges document events := by
  have first : countChanges document (events.take (index + 1)) ≤
      countChanges document (events.take later) := countChanges_take_le document events less
  have next := countChanges_take_succ document there
  have all := (List.take_sublist (later + 1) events).countP_le (p := (·.changes (some document)))
  have one : countChanges document [event] = 1 := by simp [countChanges, changes]
  simp only [countChanges] at first next all one ⊢
  omega

theorem countChanges_take_last (last : ∀ later event, events[later]? = some event →
      event.changes (some document) = true → later ≤ index) :
    countChanges document (events.take (index + 1)) = countChanges document events := by
  have none : countChanges document (events.drop (index + 1)) = 0 := by
    apply List.countP_eq_zero.mpr
    intro event member changes
    obtain ⟨offset, there⟩ := List.mem_iff_getElem?.mp member
    rw [List.getElem?_drop] at there
    have early := last _ event there changes
    omega
  have parts : countChanges document (events.take (index + 1) ++ events.drop (index + 1)) =
      countChanges document (events.take (index + 1)) +
        countChanges document (events.drop (index + 1)) := List.countP_append
  rw [List.take_append_drop, none] at parts
  exact parts.symm

end EditorEvent

namespace Engine

open EditorEvent

theorem accept_ending (setup : Setup Page) (settled : Settled engine)
    (installed : engine.session.watch = some watch)
    (closed : engine.workspace.isOpen watch.output.id = false) (kind : event.kind = .lifecycle) :
    engine.accept setup event =
      (engine.stopWatch.1.notify .info outputClosed, { stopped := true }, none) := by
  have left : engine.stopIfOutputClosed = (engine.stopWatch.1.notify .info outputClosed, true) := by
    simp only [stopIfOutputClosed, installed, closed, Bool.false_eq_true, if_false]
  have unchecked : engine.checkChange setup event = (engine, none) := by
    cases event with
    | changed document changes => cases kind
    | _ => rfl
  simp only [accept, unchecked, settled.dispatch_lifecycle installed kind, left]

theorem accept_idle (setup : Setup Page) (settled : Settled engine)
    (idle : engine.session.watch = none) (event : EditorEvent) :
    ∃ next grammar, engine.accept setup event = (next, { grammar }, none) ∧ Settled next ∧
      next.workspace = engine.workspace ∧ next.session.watch = none := by
  have elsewhere : event.changes engine.watched? = false := by
    rw [watched?, idle]
    cases event with
    | _ => rfl
  have stays : event.kind = .lifecycle → ∀ watch, engine.session.watch = some watch →
      engine.workspace.isOpen watch.output.id = true := by
    simp [idle]
  exact ⟨_, _, accept_passed setup settled elsewhere stays, settled_checked settled,
    checked_workspace, by rw [checked_session, idle]⟩

/-- Taking an event while there is a watch: a change of its document gets the next ticket, and any
event that is no change ends the watch if the output is closed. -/
theorem accept_installed (setup : Setup Page) (settled : Settled engine)
    (installed : engine.session.watch = some watch) (event : EditorEvent) :
    ∃ next grammar, engine.accept setup event =
        (next,
          { grammar
            stopped := !engine.workspace.isOpen watch.output.id && event.kind = .lifecycle },
          if event.changes (some watch.document) then some (nextTicket watch event) else none) ∧
      Settled next ∧ next.workspace = engine.workspace ∧
      next.session.watch =
        if engine.workspace.isOpen watch.output.id = false ∧ event.kind = .lifecycle then none
        else some (watch.numbered (countChanges watch.document [event])) := by
  have watched : engine.watched? = some watch.document := by
    rw [watched?, installed, Option.map_some]
  have known : (engine.checked setup event).session.watch = some watch := by
    rw [checked_session, installed]
  cases here : event.changes (some watch.document) with
  | true =>
      have change := kind_of_changes here
      have taken : engine.accept setup event = _ :=
        accept_watched settled installed (by rw [watched]; exact here)
      refine ⟨(engine.checked setup event).issued watch, checkOf setup engine.workspace event, ?_,
        settled_issued (settled_checked settled) known, checked_workspace, ?_⟩
      · simp [taken, change]
      · simp [issued, change, countChanges, here, Watch.numbered]
  | false =>
      by_cases ending : engine.workspace.isOpen watch.output.id = false ∧ event.kind = .lifecycle
      · refine ⟨engine.stopWatch.1.notify .info outputClosed, none, ?_,
          (settled_stopWatch settled).of_same rfl rfl, ?_, ?_⟩
        · simp [accept_ending setup settled installed ending.1 ending.2, ending]
        · rw [stopWatch_of_watch installed]
          rfl
        · rw [if_pos ending]
          exact settled.stopWatch.2.1
      · have stays : event.kind = .lifecycle → ∀ other, engine.session.watch = some other →
            engine.workspace.isOpen other.output.id = true := by
          intro kind other there
          cases installed.symm.trans there
          exact (Bool.not_eq_false _).mp fun closed => ending ⟨closed, kind⟩
        have passed := accept_passed setup settled (by rw [watched]; exact here) stays
        have goes : (!engine.workspace.isOpen watch.output.id && decide (event.kind = .lifecycle)) =
            false := by
          simpa using ending
        refine ⟨engine.checked setup event, checkOf setup engine.workspace event, ?_,
          settled_checked settled, checked_workspace, ?_⟩
        · simp [passed, goes]
        · simp [known, ending, countChanges, here, Watch.numbered]

theorem acceptAll_idle (setup : Setup Page) (settled : Settled engine)
    (idle : engine.session.watch = none) (events : List EditorEvent) :
    Settled (engine.acceptAll setup events).1 ∧
      (engine.acceptAll setup events).1.workspace = engine.workspace ∧
      (engine.acceptAll setup events).1.session.watch = none := by
  induction events generalizing engine with
  | nil => exact ⟨settled, rfl, idle⟩
  | cons event rest ih =>
      obtain ⟨next, grammar, taken, still, same, none⟩ :=
        accept_idle setup settled idle event
      obtain ⟨later, unchanged, gone⟩ := ih still none
      rw [acceptAll_cons, taken]
      exact ⟨later, unchanged.trans same, gone⟩

/-- Taking events leaves the documents alone.  The watch has ended if one of them ends it; otherwise
its tickets have been numbered on by the changes of its document. -/
theorem acceptAll_taken (setup : Setup Page) (settled : Settled engine)
    (installed : engine.session.watch = some watch) (events : List EditorEvent) :
    Settled (engine.acceptAll setup events).1 ∧
      (engine.acceptAll setup events).1.workspace = engine.workspace ∧
      (engine.acceptAll setup events).1.session.watch =
        if (stopAt? (engine.workspace.isOpen watch.output.id) events).isSome then none
        else some (watch.numbered (countChanges watch.document events)) := by
  induction events generalizing engine watch with
  | nil =>
      refine ⟨settled, rfl, ?_⟩
      simpa [acceptAll, stopAt?, countChanges, Watch.numbered] using installed
  | cons event rest ih =>
      obtain ⟨next, grammar, taken, still, same, left⟩ :=
        accept_installed setup settled installed event
      rw [acceptAll_cons, taken, stopAt?_cons]
      by_cases ending : engine.workspace.isOpen watch.output.id = false ∧ event.kind = .lifecycle
      · rw [if_pos ending] at left ⊢
        obtain ⟨later, unchanged, gone⟩ := acceptAll_idle setup still left rest
        exact ⟨later, unchanged.trans same, gone⟩
      · rw [if_neg ending] at left ⊢
        obtain ⟨later, unchanged, known⟩ := ih still left
        refine ⟨later, unchanged.trans same, ?_⟩
        rw [known, same, Watch.numbered_numbered, Option.isSome_map, Watch.numbered_output,
          Watch.numbered_document, countChanges_cons watch.document rest]

/-- What an event of a row is answered when it is taken is settled by the events before it. -/
theorem getElem?_acceptAll (events : List EditorEvent) (index : Nat) :
    (engine.acceptAll setup events).2[index]? = events[index]?.map fun event =>
      ((engine.acceptAll setup (events.take index)).1.accept setup event).2 := by
  induction events generalizing engine index with
  | nil => rfl
  | cons event rest ih =>
      cases index with
      | zero => rfl
      | succ index => exact ih index

theorem acceptAll_length (events : List EditorEvent) :
    (engine.acceptAll setup events).2.length = events.length := by
  induction events generalizing engine with
  | nil => rfl
  | cons event rest ih => exact congrArg (· + 1) ih

/-- The ticket for a change in a row of events: the one after those of the changes before it. -/
def rowTicket (watch : Watch Page) (events : List EditorEvent) (index : Nat)
    (event : EditorEvent) : Ticket :=
  nextTicket (watch.numbered (countChanges watch.document (events.take index))) event

theorem rowTicket_revision (here : events[index]? = some event)
    (changes : event.changes (some watch.document) = true) :
    (rowTicket watch events index event).revision =
      watch.revision + countChanges watch.document (events.take (index + 1)) := by
  rw [countChanges_take_succ watch.document here]
  simp [rowTicket, nextTicket, Watch.numbered, countChanges, changes, Nat.add_assoc]

/-- What an event of a row is answered when it is taken, and its ticket if it is a change in time. -/
theorem acceptAll_entry (setup : Setup Page) (settled : Settled engine)
    (installed : engine.session.watch = some watch) (here : events[index]? = some event) :
    let stop := stopAt? (engine.workspace.isOpen watch.output.id) events
    ∃ grammar, (engine.acceptAll setup events).2[index]? =
      some ({ grammar, stopped := stop = some index },
        if inTime watch.document stop events index then some (rowTicket watch events index event)
        else none) := by
  intro stop
  obtain ⟨still, same, left⟩ := acceptAll_taken setup settled installed (events.take index)
  rw [getElem?_acceptAll, here, Option.map_some]
  cases before : stopAt? (engine.workspace.isOpen watch.output.id) (events.take index) with
  | some place =>
      -- The watch has ended before this event.
      obtain ⟨ended, earlier⟩ := stopAt?_take_eq_some.mp before
      obtain ⟨next, grammar, taken, _⟩ :=
        accept_idle setup still (by rw [left, before]; rfl) event
      have late : inTime watch.document stop events index = false :=
        inTime_of_ended here ended earlier
      have other : stop ≠ some index := by
        intro same
        cases ended.symm.trans same
        omega
      exact ⟨grammar, by simp [taken, late, other]⟩
  | none =>
      obtain ⟨next, grammar, taken, _⟩ :=
        accept_installed setup still (by rw [left, before]; rfl) event
      have ends : stop = some index ↔
          engine.workspace.isOpen watch.output.id = false ∧ event.kind = .lifecycle :=
        stopAt?_eq_iff here before
      have timely : inTime watch.document stop events index =
          event.changes (some watch.document) := inTime_of_lasting here before
      refine ⟨grammar, ?_⟩
      rw [taken, timely, same, Watch.numbered_document, Watch.numbered_output]
      cases event.changes (some watch.document) with
      | false => simp [ends]
      | true => simp [ends, rowTicket]

/-- A ticket that is issued while a row of events is taken is the ticket of a change in time. -/
theorem ticket_of_entry (settled : Settled engine) (installed : engine.session.watch = some watch)
    {entry : HandledEvent × Option Ticket} {ticket : Ticket}
    (there : (engine.acceptAll setup events).2[index]? = some entry)
    (pending : entry.2 = some ticket) :
    ∃ event, events[index]? = some event ∧
      inTime watch.document (stopAt? (engine.workspace.isOpen watch.output.id) events) events
        index = true ∧
      ticket = rowTicket watch events index event := by
  have found := there
  rw [getElem?_acceptAll, Option.map_eq_some_iff] at found
  obtain ⟨event, here, _⟩ := found
  obtain ⟨grammar, known⟩ := acceptAll_entry setup settled installed here
  cases there.symm.trans known
  simp only [Option.ite_none_right_eq_some, Option.some.injEq] at pending
  exact ⟨event, here, pending.1, pending.2.symm⟩

end Engine

end LiveSelector
