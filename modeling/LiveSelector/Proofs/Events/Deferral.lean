import LiveSelector.Proofs.Events.Routing

namespace LiveSelector.Engine

/-! An evaluation that is put off.  One engine has issued a ticket and not completed it, another has
completed it.  Whatever event comes next, they still differ by that evaluation alone: checks of other
documents do not meet with it, and an evaluation of the same document takes its place. -/

variable {Page : Type} {setup : Setup Page} {engine batch plain : Engine Page}
variable {watch : Watch Page} {event : EditorEvent} {pending : Option Ticket} {ticket : Ticket}

/-- Engines that differ at most in what the user has been told, and in how their diagnostics came
about. -/
structure Matches (first second : Engine Page) : Prop where
  session : second.session = first.session
  workspace : second.workspace = first.workspace
  hub : second.hub = first.hub
  diagnostics : ∀ document, second.diagnostics.get document = first.diagnostics.get document
  statuses : second.journal.statuses = first.journal.statuses
  prompts : second.journal.prompts = first.journal.prompts
  fetches : second.fetches = first.fetches
  loads : second.loads = first.loads

theorem Matches.refl (engine : Engine Page) : Matches engine engine :=
  ⟨rfl, rfl, rfl, fun _ => rfl, rfl, rfl, rfl, rfl⟩

/-- An engine in which a ticket is still to be completed, completed. -/
def settle (setup : Setup Page) (engine : Engine Page) (pending : Option Ticket) : Engine Page :=
  (engine.finish setup {} pending).1

theorem settle_some (accepted : engine.session.checkTicket ticket = .ok watch) :
    engine.settle setup (some ticket) =
      engine.absorb watch.document
        (effectOf setup engine.workspace watch ticket.changedLine) := by
  simp only [settle, finish, completeEvaluation_effect accepted]

/-- One engine has put off the evaluation of a ticket that the other has done. -/
structure Meets (setup : Setup Page) (batch plain : Engine Page) (pending : Option Ticket) :
    Prop where
  settled : Settled batch
  writable : Writable batch
  good : ∀ ticket, pending = some ticket → ∃ watch, batch.session.checkTicket ticket = .ok watch
  same : Matches (batch.settle setup pending) plain

theorem settle_frame (setup : Setup Page) (engine : Engine Page) (pending : Option Ticket) :
    ∃ workspace diagnostics notices, engine.settle setup pending =
      { engine with
        workspace
        diagnostics
        journal := { engine.journal with notices } } := by
  cases pending with
  | none => exact ⟨_, _, _, rfl⟩
  | some ticket => exact completeEvaluation_frame setup engine ticket

/-- Outside of the workspace, the diagnostics and the notices the engines are the same. -/
theorem Meets.frame (meets : Meets setup batch plain pending) :
    plain.session = batch.session ∧ plain.hub = batch.hub ∧
      plain.journal.statuses = batch.journal.statuses ∧
      plain.journal.prompts = batch.journal.prompts ∧ plain.fetches = batch.fetches ∧
      plain.loads = batch.loads := by
  obtain ⟨workspace, diagnostics, notices, frame⟩ := settle_frame setup batch pending
  have same := meets.same
  rw [frame] at same
  exact ⟨same.session, same.hub, same.statuses, same.prompts, same.fetches, same.loads⟩

theorem Meets.session (meets : Meets setup batch plain pending) :
    plain.session = batch.session :=
  meets.frame.1

theorem Meets.plain_settled (meets : Meets setup batch plain pending) : Settled plain :=
  meets.settled.of_same meets.frame.1 meets.frame.2.1

/-- What the workspace of the one engine holds, the other's holds, but for the output. -/
theorem Meets.document? (meets : Meets setup batch plain pending) {document : DocumentId}
    (apart : ∀ watch, batch.session.watch = some watch → document ≠ watch.output.id) :
    plain.workspace.document? document = batch.workspace.document? document := by
  rw [meets.same.workspace]
  cases pending with
  | none => rfl
  | some ticket =>
      obtain ⟨watch, accepted⟩ := meets.good ticket rfl
      rw [settle_some accepted]
      exact effectOf_document? setup _ _ (apart watch (Session.watch_of_checkTicket accepted))

theorem Meets.plain_writable (meets : Meets setup batch plain pending) : Writable plain := by
  intro watch installed
  rw [meets.session] at installed
  refine ⟨?_, (meets.writable watch installed).2⟩
  rw [meets.same.workspace]
  cases pending with
  | none => exact (meets.writable watch installed).1
  | some ticket =>
      obtain ⟨other, accepted⟩ := meets.good ticket rfl
      rw [settle_some accepted]
      simp only [absorb, effectOf_isOpen]
      exact (meets.writable watch installed).1

theorem Meets.checkOf (meets : Meets setup batch plain pending)
    (untouched : Untouched batch [event]) :
    checkOf setup plain.workspace event = checkOf setup batch.workspace event := by
  cases event with
  | changed document changes =>
      have same : plain.workspace.document? document = batch.workspace.document? document := by
        refine meets.document? fun watch installed here => ?_
        have other := untouched watch installed _ (List.mem_singleton_self _)
        simp [EditorEvent.changes, here] at other
      simp only [Engine.checkOf, grammarOf, same]
  | _ => rfl

/-- An event that is no change of the watched document is met alike. -/
theorem meets_unwatched (meets : Meets setup batch plain pending)
    (elsewhere : event.changes batch.watched? = false)
    (untouched : Untouched batch [event]) :
    Meets setup (batch.checked setup event) (plain.checked setup event) pending := by
  have found := meets.checkOf untouched
  obtain ⟨settled, writable, good, same⟩ := meets
  refine ⟨settled_checked settled, ?_, ?_, ?_⟩
  · intro watch installed
    rw [checked_session] at installed
    rw [checked_workspace]
    exact writable watch installed
  · intro ticket waiting
    rw [checked_session]
    exact good ticket waiting
  · cases event with
    | changed document changes =>
        cases pending with
        | none =>
            refine ⟨same.session, same.workspace, same.hub, fun other => ?_, same.statuses,
              same.prompts, same.fetches, same.loads⟩
            have before := same.diagnostics other
            simp only [Engine.checkOf] at found
            simp only [settle, finish] at before
            simp only [checked, settle, finish, DiagnosticStore.get_show?, found, before]
        | some ticket =>
            obtain ⟨watch, accepted⟩ := good ticket rfl
            have installed := Session.watch_of_checkTicket accepted
            have apart : document ≠ watch.document := by
              rintro rfl
              simp [EditorEvent.changes, watched?, installed] at elsewhere
            have acceptedNext :
                (batch.checked setup (.changed document changes)).session.checkTicket ticket =
                  .ok watch := accepted
            rw [settle_some accepted] at same
            rw [settle_some acceptedNext]
            refine ⟨same.session, same.workspace, same.hub, fun other => ?_, same.statuses,
              same.prompts, same.fetches, same.loads⟩
            have before := same.diagnostics other
            simp only [Engine.checkOf] at found
            simp only [absorb, DiagnosticStore.get_show?] at before
            simp only [checked, absorb, DiagnosticStore.get_show?, found, before]
            by_cases here : document = other
            · subst here
              simp only [if_true, if_neg (Ne.symm apart)]
            · simp only [if_neg here]
    | _ => exact same

/-- How the last report of events taken one by one compares with the one of events taken together:
equal, and if the evaluation was a repeated one, equal up to the wording. -/
def Compares (repeated : Bool) (once last : EvaluationReport) : Prop :=
  if repeated then once.Recurs last else last = once

/-- The evaluation that comes next has the same effect on both engines, whatever an earlier one has
left behind in the one. -/
theorem Meets.effects (meets : Meets setup batch plain pending)
    (installed : batch.session.watch = some watch) (changedLine : Nat) :
    (effectOf setup plain.workspace watch changedLine).workspace =
        (effectOf setup batch.workspace watch changedLine).workspace ∧
      (effectOf setup plain.workspace watch changedLine).shown =
        (effectOf setup batch.workspace watch changedLine).shown ∧
      Compares pending.isSome (effectOf setup batch.workspace watch changedLine).report
        (effectOf setup plain.workspace watch changedLine).report ∧
      ∃ earlier, (∀ document, plain.diagnostics.get document =
          (batch.diagnostics.show? watch.document earlier).get document) ∧
        ((effectOf setup batch.workspace watch changedLine).shown = none → earlier = none) := by
  have apart := (meets.writable watch installed).2
  obtain ⟨settled, writable, good, same⟩ := meets
  cases pending with
  | none =>
      have workspace : plain.workspace = batch.workspace := same.workspace
      rw [workspace]
      exact ⟨rfl, rfl, rfl, none, same.diagnostics, fun _ => rfl⟩
  | some ticket =>
      obtain ⟨other, accepted⟩ := good ticket rfl
      cases installed.symm.trans (Session.watch_of_checkTicket accepted)
      rw [settle_some accepted] at same
      have workspace := same.workspace
      simp only [absorb] at workspace
      rw [workspace]
      obtain ⟨after, shown, recurs, alike⟩ :=
        effectOf_again setup batch.workspace apart ticket.changedLine changedLine
      refine ⟨after, shown, recurs,
        (effectOf setup batch.workspace watch ticket.changedLine).shown, same.diagnostics, ?_⟩
      intro none
      rw [none] at alike
      simpa using alike

/-- A change of the watched document is met by doing at once what is put off. -/
theorem meets_watched (meets : Meets setup batch plain pending)
    (installed : batch.session.watch = some watch) (here : event.changes batch.watched? = true) :
    Meets setup ((batch.checked setup event).issued watch)
        (((plain.checked setup event).issued watch).completeEvaluation setup
          (nextTicket watch event)).1
        (some (nextTicket watch event)) ∧
      Compares pending.isSome
        (((batch.checked setup event).issued watch).completeEvaluation setup
          (nextTicket watch event)).2
        (((plain.checked setup event).issued watch).completeEvaluation setup
          (nextTicket watch event)).2 := by
  have known : (batch.checked setup event).session.watch = some watch := by
    rw [checked_session, installed]
  cases event with
  | changed document changes =>
      have bound : document = watch.document := by
        simpa [EditorEvent.changes, watched?, installed] using here
      subst bound
      have found : grammarOf setup plain.workspace watch.document =
          grammarOf setup batch.workspace watch.document := by
        have text : plain.workspace.document? watch.document =
            batch.workspace.document? watch.document := by
          refine meets.document? fun other there => ?_
          cases installed.symm.trans there
          exact (meets.writable watch installed).2
        simp only [grammarOf, text]
      obtain ⟨workspace, shown, compares, earlier, before, blank⟩ := meets.effects installed
        (nextTicket watch (.changed watch.document changes)).changedLine
      obtain ⟨session, hub, statuses, prompts, fetches, loads⟩ := meets.frame
      rw [completeEvaluation_effect checkTicket_issued,
        completeEvaluation_effect checkTicket_issued]
      simp only [effectOf_revision]
      refine ⟨⟨settled_issued (settled_checked meets.settled) known, ?_, ?_, ?_⟩, compares⟩
      · intro other there
        cases there
        exact meets.writable watch installed
      · intro ticket waiting
        cases waiting
        exact ⟨_, checkTicket_issued⟩
      · rw [settle_some checkTicket_issued]
        simp only [effectOf_revision]
        refine ⟨?_, workspace, hub, fun other => ?_, statuses, prompts, fetches, loads⟩
        · simp only [absorb, issued, checked, session]
        · -- What an earlier evaluation has shown is shown again or has been replaced.
          have held := before other
          simp only [DiagnosticStore.get_show?] at held
          simp only [absorb, issued, checked, DiagnosticStore.get_show?, found, held]
          rw [shown]
          by_cases bound : watch.document = other
          · simp only [if_pos bound]
            cases now : (effectOf setup batch.workspace watch
                (nextTicket watch (.changed watch.document changes)).changedLine).shown with
            | none =>
                rw [blank now]
                rfl
            | some diagnostics => rfl
          · simp only [if_neg bound]
  | _ => simp [EditorEvent.changes] at here

end LiveSelector.Engine
