import LiveSelector.Proofs.Engine.Frames
import LiveSelector.Proofs.Run.Moves

namespace LiveSelector

/-! The history of a session: when watches began and ended and which tickets were issued, read off
what the moves of a run answer.  `lives_history` says that the session is at every moment what its
history makes of it, so no watch and no ticket is missing from the history. -/

variable {Page : Type} {setup : Setup Page} {engine : Engine Page}
variable {before middle after : Session Page} {milestone : Milestone} {ticket : Ticket}

inductive Milestone where
  | began
  | ended
  | issued (ticket : Ticket)
  deriving DecidableEq

namespace Session

/-- Sessions that differ in their state alone. -/
def Same (before after : Session Page) : Prop :=
  after.generation = before.generation ∧ after.watch = before.watch

/-- What a milestone makes of a session. -/
inductive Passes (before : Session Page) : Milestone → Session Page → Prop where
  | began {after : Session Page} (watch : Watch Page) (idle : before.watch = none)
      (counted : after.generation = before.generation + 1) (installed : after.watch = some watch)
      (current : watch.generation = after.generation) (fresh : watch.revision = 0) :
      Passes before .began after
  | ended {after : Session Page} (watch : Watch Page) (installed : before.watch = some watch)
      (counted : after.generation = before.generation + 1) (idle : after.watch = none) :
      Passes before .ended after
  | issued {after : Session Page} (watch : Watch Page) (ticket : Ticket)
      (installed : before.watch = some watch) (kept : after.generation = before.generation)
      (renewed : after.watch = some { watch with revision := watch.revision + 1 })
      (generation : ticket.generation = watch.generation)
      (revision : ticket.revision = watch.revision + 1) :
      Passes before (.issued ticket) after

/-- What milestones, one after the other, make of a session. -/
inductive Lives : Session Page → List Milestone → Session Page → Prop where
  | still {before after : Session Page} (same : Same before after) : Lives before [] after
  | pass {before middle after : Session Page} {milestone : Milestone} {rest : List Milestone}
      (step : Passes before milestone middle) (later : Lives middle rest after) :
      Lives before (milestone :: rest) after

theorem Same.refl (session : Session Page) : Same session session := ⟨rfl, rfl⟩

theorem Same.trans (first : Same before middle) (second : Same middle after) :
    Same before after :=
  ⟨second.1.trans first.1, second.2.trans first.2⟩

theorem Passes.of_same (same : Same before middle) (step : Passes middle milestone after) :
    Passes before milestone after := by
  obtain ⟨generation, watch⟩ := same
  cases step with
  | began opened idle counted installed current fresh =>
      exact .began opened (watch ▸ idle) (generation ▸ counted) installed current fresh
  | ended left installed counted idle =>
      exact .ended left (watch ▸ installed) (generation ▸ counted) idle
  | issued held ticket installed kept renewed stamp number =>
      exact .issued held ticket (watch ▸ installed) (generation ▸ kept) renewed stamp number

theorem Lives.of_same {milestones : List Milestone} (same : Same before middle)
    (later : Lives middle milestones after) : Lives before milestones after := by
  cases later with
  | still next => exact .still (same.trans next)
  | pass step rest => exact .pass (step.of_same same) rest

theorem Lives.append {past future : List Milestone} (first : Lives before past middle)
    (second : Lives middle future after) : Lives before (past ++ future) after := by
  induction first with
  | still same => exact second.of_same same
  | pass step _ ih => exact .pass step (ih second)

theorem Lives.single (step : Passes before milestone after) : Lives before [milestone] after :=
  .pass step (.still (.refl after))

theorem Lives.cut {past future : List Milestone}
    (life : Lives before (past ++ milestone :: future) after) :
    ∃ here next, Lives before past here ∧ Passes here milestone next ∧ Lives next future after := by
  induction past generalizing before with
  | nil =>
      cases life with
      | pass step rest => exact ⟨before, _, .still (.refl before), step, rest⟩
  | cons first past ih =>
      cases life with
      | pass step rest =>
          obtain ⟨here, next, early, cut, late⟩ := ih rest
          exact ⟨here, next, .pass step early, cut, late⟩

/-- As long as no watch begins, a watch that there is has been there, with fewer tickets perhaps. -/
theorem Lives.watch_kept {milestones : List Milestone} {watch : Watch Page}
    (life : Lives before milestones after) (unbegun : .began ∉ milestones)
    (installed : after.watch = some watch) :
    ∃ number, before.watch = some { watch with revision := number } := by
  induction life with
  | still same => exact ⟨watch.revision, same.2.symm.trans installed⟩
  | pass step rest ih =>
      simp only [List.mem_cons, not_or] at unbegun
      obtain ⟨number, known⟩ := ih unbegun.2 installed
      cases step with
      | began opened => exact absurd rfl unbegun.1
      | ended left there counted idle => simp [idle] at known
      | issued held ticket there kept renewed =>
          have same := Option.some.inj (renewed.symm.trans known)
          have back : held = { watch with revision := held.revision } :=
            congrArg (fun watch => { watch with revision := held.revision }) same
          exact ⟨held.revision, there.trans (congrArg some back)⟩

end Session

namespace Engine

/-- The end of the watch that a stop leaves, if there was one. -/
def leaving (engine : Engine Page) : List Milestone :=
  if engine.stopWatch.2 then [.ended] else []

/-- The milestones of a move, in order. -/
def milestones (setup : Setup Page) (engine : Engine Page) : Move → List Milestone
  | .openWatch link =>
    match (engine.openWatch setup link).2 with
    | .error (.busy _) => []
    | .ok (.ok _) => engine.leaving ++ [.began]
    | _ => engine.leaving
  | .stopWatch => engine.leaving
  | .accept event =>
    match engine.accept setup event with
    | (_, handled, ticket) =>
      ticket.toList.map .issued ++ if handled.stopped then [.ended] else []
  | .beginEvaluation changedLine => (engine.beginEvaluation changedLine).2.toList.map .issued
  | _ => []

/-- The milestones of moves, in order. -/
def history (engine : Engine Page) : List (Setup Page × Move) → List Milestone
  | [] => []
  | (setup, move) :: rest => engine.milestones setup move ++ (engine.move setup move).history rest

open Session

theorem lives_stopWatch : Lives engine.session engine.leaving engine.stopWatch.1.session := by
  cases installed : engine.session.watch with
  | none =>
      simp only [leaving, stopWatch, installed]
      exact .still (.refl _)
  | some watch =>
      simp only [leaving, stopWatch, installed, Session.withoutWatch]
      exact .single (.ended watch installed rfl rfl)

theorem lives_beginEvaluation (changedLine : Nat) :
    Lives engine.session ((engine.beginEvaluation changedLine).2.toList.map .issued)
      (engine.beginEvaluation changedLine).1.session := by
  cases installed : engine.session.watch with
  | none =>
      simp only [beginEvaluation, Session.issueTicket, installed]
      exact .still (.refl _)
  | some watch =>
      simp only [beginEvaluation, Session.issueTicket, installed]
      exact .single (.issued watch _ installed rfl rfl rfl rfl)

theorem stopWatch_idle : engine.stopWatch.1.session.watch = none := by
  cases installed : engine.session.watch with
  | none => simp [stopWatch, installed]
  | some watch => simp [stopWatch, installed, enter, Session.withoutWatch]

theorem lives_openWatch (given : Option Link) :
    Lives engine.session (engine.milestones setup (.openWatch given))
      (engine.openWatch setup given).1.session := by
  by_cases running : engine.session.state = .running
  · simp only [milestones, openWatch, if_pos running]
    exact .still (.refl _)
  · obtain ⟨workspace, journal, fetches, loads, base, left, unopened | opened⟩ :=
      openWatch_cases setup engine given running
    · obtain ⟨after, notOpened, notBusy⟩ := unopened
      have recorded : engine.milestones setup (.openWatch given) = engine.leaving := by
        rcases opening : engine.openWatch setup given with ⟨_, reason | reason | found⟩
        · rw [opening] at notBusy
          cases reason with
          | busy state => exact absurd rfl (notBusy state)
          | _ => simp [milestones, opening]
        · simp [milestones, opening]
        · exact absurd (by rw [opening]) (notOpened found)
      rw [recorded, after, left]
      exact lives_stopWatch
    · obtain ⟨document, link, content, page, output, opening⟩ := opened
      have recorded : engine.milestones setup (.openWatch given) = engine.leaving ++ [.began] := by
        simp [milestones, opening]
      rw [recorded, opening, left]
      refine lives_stopWatch.append (.single ?_)
      exact .began _ stopWatch_idle rfl rfl rfl rfl

theorem lives_stopIfOutputClosed :
    Lives engine.session (if engine.stopIfOutputClosed.2 then [.ended] else [])
      engine.stopIfOutputClosed.1.session := by
  unfold stopIfOutputClosed
  split
  · exact .still (.refl _)
  · rename_i watch installed
    split
    · exact .still (.refl _)
    · have recorded : engine.leaving = [.ended] := by simp [leaving, stopWatch, installed]
      have left : Lives engine.session engine.leaving engine.stopWatch.1.session := lives_stopWatch
      rw [recorded] at left
      exact left

theorem lives_dispatch (event : EditorEvent) :
    Lives engine.session
      ((engine.dispatch event).2.1.toList.map .issued ++
        if (engine.dispatch event).2.2 then [.ended] else [])
      (engine.dispatch event).1.session := by
  cases installed : engine.session.watch with
  | none =>
      simp only [dispatch, installed]
      exact .still (.refl _)
  | some watch =>
      simp only [dispatch, installed]
      -- A listener that is not reached leaves its half of the history empty.
      by_cases change : (engine.hub.route event).contains watch.change = true <;>
        by_cases lifecycle : (engine.hub.route event).contains watch.lifecycle = true <;>
        simp only [change, lifecycle, if_true, if_false, Bool.false_eq_true]
      · exact (lives_beginEvaluation _).append lives_stopIfOutputClosed
      · exact (lives_beginEvaluation _).append (.still (.refl _))
      · exact lives_stopIfOutputClosed
      · exact .still (.refl _)

theorem opened_of_began {move : Move} (member : .began ∈ engine.milestones setup move) :
    ∃ given opened, move = .openWatch given ∧
      engine.openWatch setup given = (engine.move setup move, .ok (.ok opened)) := by
  have ended : ∀ milestone ∈ engine.leaving, milestone = .ended := by
    intro milestone inside
    simp only [leaving] at inside
    split at inside
    · exact List.mem_singleton.mp inside
    · cases inside
  cases move with
  | openWatch given =>
      rcases opening : engine.openWatch setup given with ⟨after, reason | reason | opened⟩
      · simp only [milestones, opening] at member
        split at member
        · cases member
        · contradiction
        · cases ended _ member
      · simp only [milestones, opening] at member
        cases ended _ member
      · exact ⟨given, opened, rfl, by simp only [Engine.move, opening]⟩
  | stopWatch => cases ended _ member
  | accept event =>
      simp only [milestones, List.mem_append, List.mem_map] at member
      rcases member with ⟨ticket, _, issued⟩ | stopped
      · cases issued
      · split at stopped
        · cases List.mem_singleton.mp stopped
        · cases stopped
  | beginEvaluation changedLine =>
      obtain ⟨ticket, _, issued⟩ := List.mem_map.mp member
      cases issued
  | _ => cases member

/-- A move makes of the session what its milestones say. -/
theorem lives_move (setup : Setup Page) (engine : Engine Page) (move : Move) :
    Lives engine.session (engine.milestones setup move) (engine.move setup move).session := by
  cases move with
  | openWatch link => exact lives_openWatch link
  | stopWatch => exact lives_stopWatch
  | accept event =>
      obtain ⟨diagnostics, checked⟩ := checkChange_frame setup engine event
      have same : (engine.checkChange setup event).1.session = engine.session := by rw [checked]
      rw [← same]
      exact lives_dispatch event
  | beginEvaluation changedLine => exact lives_beginEvaluation changedLine
  | runSelector link =>
      have same := (runSelector_frame setup engine link).1
      rw [Engine.move, same]
      exact .still (.refl _)
  | completeEvaluation ticket =>
      obtain ⟨_, _, _, frame⟩ := completeEvaluation_frame setup engine ticket
      rw [Engine.move, frame]
      exact .still (.refl _)
  | activate =>
      obtain ⟨_, _, frame⟩ := activate_frame setup engine
      rw [Engine.move, frame]
      exact .still (.refl _)
  | detectGrammarErrors document =>
      obtain ⟨_, frame⟩ := detectGrammarErrors_frame setup engine document
      rw [Engine.move, frame]
      exact .still (.refl _)
  | host action => exact .still (.refl _)
  | refuse reason => exact .still (.refl _)

/-- A watch after a move is the one before it, or the move has opened it. -/
theorem watch_of_move {move : Move} {watch : Watch Page}
    (installed : (engine.move setup move).session.watch = some watch) :
    (∃ number, engine.session.watch = some { watch with revision := number }) ∨
      ∃ given opened, move = .openWatch given ∧
        engine.openWatch setup given = (engine.move setup move, .ok (.ok opened)) := by
  by_cases began : .began ∈ engine.milestones setup move
  · exact .inr (opened_of_began began)
  · exact .inl ((lives_move setup engine move).watch_kept began installed)

theorem lives_history (engine : Engine Page) (moves : List (Setup Page × Move)) :
    Lives engine.session (engine.history moves) (engine.moveAll moves).session := by
  induction moves generalizing engine with
  | nil => exact .still (.refl _)
  | cons step rest ih => exact (lives_move step.1 engine step.2).append (ih _)

end Engine

end LiveSelector
