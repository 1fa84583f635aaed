import LiveSelector.Proofs.Diagnostics.Present
import LiveSelector.Proofs.Session.Tickets

namespace LiveSelector

/-! Changes of different documents in either order.  A change has to do with the diagnostics of its
own document, and only a change of the watched document does more: it numbers the watch's tickets on
and writes the output.  As long as the output itself is not changed by anyone else, the two orders
come to the same. -/

variable {Page : Type} {setup : Setup Page} {engine : Engine Page} {watch : Watch Page}
variable {workspace : Workspace} {first second document : DocumentId}
variable {edits others : List TextChange} {event other : EditorEvent}

namespace DiagnosticStore

variable {store : DiagnosticStore} {shown later : Option (List Diagnostic)}

theorem get?_set {diagnostics : List Diagnostic} {key : String} :
    (store.set document diagnostics).entries.get? key =
      if document.text = key then (if diagnostics = [] then none else some diagnostics)
      else store.entries.get? key := by
  cases diagnostics with
  | nil => simp only [set, clear, Table.get?_erase, if_true]
  | cons head rest => simp only [set, Table.get?_insert, reduceCtorEq, if_false]

/-- Stores stand for what they show, so it does not matter in which order two documents are set. -/
theorem set_comm (different : first ≠ second) (one two : List Diagnostic) :
    (store.set first one).set second two = (store.set second two).set first one := by
  have apart : first.text ≠ second.text := by
    intro same
    cases first
    cases second
    exact different (congrArg DocumentId.mk same)
  have entries : ((store.set first one).set second two).entries =
      ((store.set second two).set first one).entries := by
    apply Table.ext_get?
    intro key
    rw [get?_set, get?_set, get?_set, get?_set]
    by_cases here : first.text = key
    · subst here
      simp only [if_neg (Ne.symm apart), if_true]
    · simp only [if_neg here]
  exact congrArg DiagnosticStore.mk entries

theorem show?_comm (different : first ≠ second) :
    (store.show? first shown).show? second later =
      (store.show? second later).show? first shown := by
  cases shown with
  | none => rfl
  | some one =>
      cases later with
      | none => rfl
      | some two => exact set_comm different one two

end DiagnosticStore

namespace Engine

/-- Two events come to the same in either order, and each is answered as if it came alone. -/
structure Interchange (setup : Setup Page) (engine : Engine Page) (event other : EditorEvent) :
    Prop where
  sameState : ((engine.handleEvent setup event).1.handleEvent setup other).1 =
    ((engine.handleEvent setup other).1.handleEvent setup event).1
  sameAnswer : ((engine.handleEvent setup other).1.handleEvent setup event).2 =
    (engine.handleEvent setup event).2
  sameOther : ((engine.handleEvent setup event).1.handleEvent setup other).2 =
    (engine.handleEvent setup other).2

theorem Interchange.symm (interchange : Interchange setup engine event other) :
    Interchange setup engine other event :=
  ⟨interchange.sameState.symm, interchange.sameOther, interchange.sameAnswer⟩

theorem checked_comm (different : first ≠ second) :
    (engine.checked setup (.changed first edits)).checked setup (.changed second others) =
      (engine.checked setup (.changed second others)).checked setup (.changed first edits) := by
  simp only [checked, DiagnosticStore.show?_comm different]

/-- Neither document is watched: both events only check. -/
theorem interchange_elsewhere (settled : Settled engine) (different : first ≠ second)
    (unwatched : engine.watched? ≠ some first) (elsewhere : engine.watched? ≠ some second) :
    Interchange setup engine (.changed first edits) (.changed second others) := by
  have settledFirst : Settled (engine.checked setup (.changed first edits)) :=
    settled_checked settled
  have settledSecond : Settled (engine.checked setup (.changed second others)) :=
    settled_checked settled
  have secondLater : (engine.checked setup (.changed first edits)).handleEvent setup
      (.changed second others) = _ :=
    handleEvent_elsewhere settledFirst (by rw [watched?_checked]; exact elsewhere) others
  have firstLater : (engine.checked setup (.changed second others)).handleEvent setup
      (.changed first edits) = _ :=
    handleEvent_elsewhere settledSecond (by rw [watched?_checked]; exact unwatched) edits
  constructor
  · rw [handleEvent_elsewhere settled unwatched, handleEvent_elsewhere settled elsewhere,
      secondLater, firstLater, checked_comm different]
  · rw [handleEvent_elsewhere settled unwatched, handleEvent_elsewhere settled elsewhere,
      firstLater, checked_workspace]
  · rw [handleEvent_elsewhere settled unwatched, handleEvent_elsewhere settled elsewhere,
      secondLater, checked_workspace]

/-- What a change of the watched document does: a check, a ticket, and the ticket's evaluation. -/
theorem handleEvent_evaluated (settled : Settled engine)
    (installed : engine.session.watch = some watch) (edits : List TextChange) :
    engine.handleEvent setup (.changed watch.document edits) =
      (((engine.checked setup (.changed watch.document edits)).issued watch).absorb watch.document
          (effectOf setup engine.workspace watch
            ((EditorEvent.changed watch.document edits).changedLine?.getD 0)),
        { grammar := grammarOf setup engine.workspace watch.document
          evaluation := some (effectOf setup engine.workspace watch
            ((EditorEvent.changed watch.document edits).changedLine?.getD 0)).report }) := by
  have here : (EditorEvent.changed watch.document edits).changes engine.watched? = true := by
    simp [EditorEvent.changes, watched?, installed]
  rw [handleEvent_watched settled installed here, completeEvaluation_effect checkTicket_issued]
  rfl

/-- The first document is watched.  Its evaluation writes the output and no other buffer, so the
check of the second document finds the same before and after it. -/
theorem interchange_watched (settled : Settled engine)
    (installed : engine.session.watch = some watch) (different : watch.document ≠ second)
    (apart : second ≠ watch.output.id) :
    Interchange setup engine (.changed watch.document edits) (.changed second others) := by
  have watched : engine.watched? = some watch.document := by
    rw [watched?, installed, Option.map_some]
  have elsewhere : engine.watched? ≠ some second := by
    rw [watched]
    exact fun same => different (Option.some.inj same)
  have settledSecond : Settled (engine.checked setup (.changed second others)) :=
    settled_checked settled
  have stillInstalled : (engine.checked setup (.changed second others)).session.watch =
      some watch := by
    rw [checked_session, installed]
  have settledFirst :
      Settled ((engine.checked setup (.changed watch.document edits)).issued watch) :=
    settled_issued (settled_checked settled) (by rw [checked_session, installed])
  let evaluated := effectOf setup engine.workspace watch
    ((EditorEvent.changed watch.document edits).changedLine?.getD 0)
  have settledLater : Settled (((engine.checked setup (.changed watch.document edits)).issued
      watch).absorb watch.document evaluated) := settledFirst.of_same rfl rfl
  have secondLater : (((engine.checked setup (.changed watch.document edits)).issued watch).absorb
      watch.document evaluated).handleEvent setup (.changed second others) = _ :=
    handleEvent_elsewhere settledLater (fun same => different (Option.some.inj same)) others
  have found : grammarOf setup evaluated.workspace second =
      grammarOf setup engine.workspace second := by
    simp only [grammarOf, evaluated, effectOf_document? setup _ _ apart]
  constructor
  · rw [handleEvent_evaluated settled installed, handleEvent_elsewhere settled elsewhere,
      secondLater, handleEvent_evaluated settledSecond stillInstalled]
    simp only [checked, issued, absorb, found, DiagnosticStore.show?_comm (Ne.symm different)]
    rfl
  · rw [handleEvent_evaluated settled installed, handleEvent_elsewhere settled elsewhere,
      handleEvent_evaluated settledSecond stillInstalled]
    rfl
  · rw [handleEvent_evaluated settled installed, handleEvent_elsewhere settled elsewhere,
      secondLater]
    simp only [checkOf, absorb, found]

/-- Changes of different documents, neither of them the output of the watch, may be handled in
either order. -/
theorem changes_interchange {run : List (Setup Page × Operation)}
    (reached : engine = (new workspace).performAll run) (different : first ≠ second)
    (untouched : Untouched engine [.changed first edits, .changed second others]) :
    Interchange setup engine (.changed first edits) (.changed second others) := by
  have settled : Settled engine := by
    rw [reached]
    exact settled_performAll (settled_new workspace) run
  have apart : ∀ watch, engine.session.watch = some watch →
      first ≠ watch.output.id ∧ second ≠ watch.output.id := by
    intro watch installed
    have firstOther := untouched watch installed (.changed first edits) (by simp)
    have secondOther := untouched watch installed (.changed second others) (by simp)
    simp only [EditorEvent.changes, Option.some.injEq, decide_eq_false_iff_not]
      at firstOther secondOther
    exact ⟨firstOther, secondOther⟩
  by_cases watchesFirst : engine.watched? = some first
  · obtain ⟨watch, installed, rfl⟩ := Option.map_eq_some_iff.mp watchesFirst
    exact interchange_watched settled installed different (apart watch installed).2
  · by_cases watchesSecond : engine.watched? = some second
    · obtain ⟨watch, installed, rfl⟩ := Option.map_eq_some_iff.mp watchesSecond
      have unwritten : first ≠ watch.output.id := (apart watch installed).1
      exact (interchange_watched settled installed (Ne.symm different) unwritten).symm
    · exact interchange_elsewhere settled different watchesFirst watchesSecond

/-- A disk with two selectors on it. -/
def pairDisk : Disk :=
  ⟨[], [([['s', '.', 't', 'e', 'm', 'm', 'e']], .file (.text "h1")),
    ([['t', '.', 't', 'e', 'm', 'm', 'e']], .file (.text "h2"))]⟩

/-- A watch of the one selector while both are open. -/
def pairRun : List (Setup Unit × Operation) :=
  [.host (.openPath (.ofText "s.temme")), .host (.openPath (.ofText "t.temme")),
    .host (.setActive ⟨"s.temme"⟩), .startWatch (some (.bare "page"))].map (quietSetup, ·)

theorem pair_interchange :
    let engine := (new (.onDisk pairDisk)).performAll pairRun
    engine.watched? = some ⟨"s.temme"⟩ ∧ engine.workspace.isOpen ⟨"t.temme"⟩ = true ∧
      Untouched engine [.changed ⟨"t.temme"⟩ [], .changed ⟨"s.temme"⟩ []] ∧
      Interchange quietSetup engine (.changed ⟨"t.temme"⟩ []) (.changed ⟨"s.temme"⟩ []) := by
  intro engine
  have untouched : Untouched engine [.changed ⟨"t.temme"⟩ [], .changed ⟨"s.temme"⟩ []] := by
    decide +kernel
  exact ⟨by decide +kernel, by decide +kernel, untouched,
    changes_interchange rfl (by decide) untouched⟩

end Engine

end LiveSelector
