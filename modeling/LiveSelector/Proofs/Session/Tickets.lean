import LiveSelector.Proofs.Engine.Evaluation
import LiveSelector.Proofs.Session.History

namespace LiveSelector

/-! What becomes of a ticket.  Generations only grow, and a revision that begins again does so under
a new generation, so an old ticket never fits a later watch.  Main statement: a ticket is good as
long as its watch has not ended and no other ticket has been issued, and nothing is done for a
ticket that is not good. -/

variable {Page : Type} {setup : Setup Page}
variable {before after session : Session Page} {watch : Watch Page} {ticket : Ticket}
variable {later : List Milestone}

def Milestone.isTicket : Milestone → Bool
  | .issued _ => true
  | _ => false

namespace Session

/-- The watch, if there is one, goes by the session's generation. -/
def Coherent (session : Session Page) : Prop :=
  ∀ watch, session.watch = some watch → watch.generation = session.generation

theorem coherent_new : Coherent (new : Session Page) := by
  intro watch installed
  simp [new] at installed

theorem Passes.coherent {milestone : Milestone} (coherent : Coherent before)
    (step : Passes before milestone after) : Coherent after := by
  intro watch installed
  cases step with
  | began opened idle counted known current fresh =>
      cases known.symm.trans installed
      exact current
  | ended left known counted idle => simp [idle] at installed
  | issued held ticket known kept renewed stamp number =>
      cases renewed.symm.trans installed
      exact (coherent held known).trans kept.symm

theorem Lives.coherent (coherent : Coherent before) (life : Lives before later after) :
    Coherent after := by
  induction life with
  | still same =>
      intro watch installed
      rw [same.2] at installed
      rw [same.1]
      exact coherent watch installed
  | pass step _ ih => exact ih (step.coherent coherent)

theorem Passes.generation_le {milestone : Milestone} (step : Passes before milestone after) :
    before.generation ≤ after.generation := by
  cases step <;> omega

theorem Lives.generation_le (life : Lives before later after) :
    before.generation ≤ after.generation := by
  induction life with
  | still same => exact Nat.le_of_eq same.1.symm
  | pass step _ ih => exact Nat.le_trans step.generation_le ih

theorem Lives.generation_lt (life : Lives before later after) (ended : .ended ∈ later) :
    before.generation < after.generation := by
  induction life with
  | still same => simp at ended
  | pass step rest ih =>
      rcases List.mem_cons.mp ended with here | there
      · subst here
        cases step with
        | ended left installed counted idle =>
            have grown := rest.generation_le
            omega
      · exact Nat.lt_of_le_of_lt step.generation_le (ih there)

/-- As long as it does not end, a watch changes by the tickets issued for it and by nothing
else. -/
theorem Lives.watch_of_no_end (life : Lives before later after) (lasting : .ended ∉ later)
    (installed : before.watch = some watch) :
    after.watch =
      some { watch with revision := watch.revision + later.countP Milestone.isTicket } := by
  induction life generalizing watch with
  | still same => rw [same.2, installed]; simp
  | @pass before middle after milestone rest step _ ih =>
      simp only [List.mem_cons, not_or] at lasting
      cases step with
      | began opened idle => simp [idle] at installed
      | ended left => exact absurd rfl lasting.1
      | issued held ticket known kept renewed stamp number =>
          cases known.symm.trans installed
          have counted : (Milestone.issued ticket :: rest).countP Milestone.isTicket =
              rest.countP Milestone.isTicket + 1 := List.countP_cons_of_pos rfl
          rw [ih lasting.2 renewed, counted, Nat.add_assoc, Nat.add_comm 1]

theorem checkTicket_of_lt (coherent : Coherent session)
    (older : ticket.generation < session.generation) :
    session.checkTicket ticket = .error .stale := by
  simp only [checkTicket]
  cases installed : session.watch with
  | none => rfl
  | some watch =>
      have current := coherent watch installed
      have other : watch.generation ≠ ticket.generation := by omega
      simp [other]

theorem checkTicket_of_watch (installed : session.watch = some watch)
    (generation : ticket.generation = watch.generation) :
    session.checkTicket ticket =
      if ticket.revision = watch.revision then .ok watch else .error .superseded := by
  by_cases same : ticket.revision = watch.revision
  · simp [checkTicket, installed, generation, same]
  · simp [checkTicket, installed, generation, same, Ne.symm same]

/-- The answer to a ticket is settled by what came after it. -/
theorem Passes.checkTicket_later (coherent : Coherent before)
    (step : Passes before (.issued ticket) session) (life : Lives session later after) :
    (.ended ∈ later → after.checkTicket ticket = .error .stale) ∧
      (.ended ∉ later → (∃ other, .issued other ∈ later) →
        after.checkTicket ticket = .error .superseded) ∧
      (.ended ∉ later → (∀ other, .issued other ∉ later) →
        ∃ watch, after.checkTicket ticket = .ok watch) := by
  have coherentNext := step.coherent coherent
  cases step with
  | issued watch _ installed kept renewed generation revision =>
      refine ⟨fun ended => ?_, fun lasting again => ?_, fun lasting last => ?_⟩
      · have older := life.generation_lt ended
        refine checkTicket_of_lt (life.coherent coherentNext) ?_
        rw [generation, coherent watch installed, ← kept]
        exact older
      · obtain ⟨other, member⟩ := again
        rw [checkTicket_of_watch (life.watch_of_no_end lasting renewed) generation]
        have counted : 0 < later.countP Milestone.isTicket :=
          List.countP_pos_iff.mpr ⟨_, member, rfl⟩
        rw [if_neg]
        simp only
        omega
      · have none : later.countP Milestone.isTicket = 0 := by
          refine List.countP_eq_zero.mpr fun milestone member => ?_
          cases milestone with
          | issued other => exact absurd member (last other)
          | _ => simp [Milestone.isTicket]
        rw [checkTicket_of_watch (life.watch_of_no_end lasting renewed) generation]
        refine ⟨_, if_pos ?_⟩
        simp only [none]
        omega

end Session

namespace Engine

/-- At every moment of every run a ticket issued in it is accepted if and only if its watch has not
ended and no ticket has been issued since; it is stale if and only if its watch has ended, whatever
is watched now, and superseded in all other cases.  What is done for a ticket that is not accepted
is to say why. -/
theorem checkTicket_of_history {workspace : Workspace} {run : List (Setup Page × Operation)}
    {moment : Nat} {now : Engine Page} {earlier later : List Milestone} {ticket : Ticket}
    (reached : now = (new workspace).moveAll ((new workspace).movesUntil run moment))
    (issued : (new workspace).history ((new workspace).movesUntil run moment) =
      earlier ++ .issued ticket :: later) :
    ((∃ watch, now.session.checkTicket ticket = .ok watch) ↔
        .ended ∉ later ∧ ∀ other, .issued other ∉ later) ∧
      (now.session.checkTicket ticket = .error .stale ↔ .ended ∈ later) ∧
      (now.session.checkTicket ticket = .error .superseded ↔
        .ended ∉ later ∧ ∃ other, .issued other ∈ later) ∧
      ∀ setup reason, now.session.checkTicket ticket = .error reason →
        now.completeEvaluation setup ticket = (now, .discarded reason) := by
  have life := lives_history (new workspace) ((new workspace).movesUntil run moment)
  rw [issued, ← reached] at life
  obtain ⟨here, next, early, step, late⟩ := life.cut
  have coherent : Session.Coherent here := early.coherent Session.coherent_new
  obtain ⟨stale, superseded, good⟩ := step.checkTicket_later coherent late
  refine ⟨?_, ?_, ?_, fun setup reason refused => completeEvaluation_refused refused⟩
  · constructor
    · rintro ⟨watch, accepted⟩
      refine ⟨fun ended => ?_, fun other member => ?_⟩
      · rw [stale ended] at accepted
        contradiction
      · by_cases ended : Milestone.ended ∈ later
        · rw [stale ended] at accepted
          contradiction
        · rw [superseded ended ⟨other, member⟩] at accepted
          contradiction
    · exact fun ⟨lasting, last⟩ => good lasting last
  · refine ⟨fun refused => ?_, stale⟩
    by_cases ended : Milestone.ended ∈ later
    · exact ended
    · by_cases again : ∃ other, Milestone.issued other ∈ later
      · rw [superseded ended again] at refused
        cases refused
      · obtain ⟨watch, accepted⟩ := good ended fun other member => again ⟨other, member⟩
        rw [accepted] at refused
        contradiction
  · refine ⟨fun refused => ?_, fun ⟨lasting, again⟩ => superseded lasting again⟩
    have lasting : Milestone.ended ∉ later := by
      intro ended
      rw [stale ended] at refused
      cases refused
    refine ⟨lasting, ?_⟩
    by_cases again : ∃ other, Milestone.issued other ∈ later
    · exact again
    · obtain ⟨watch, accepted⟩ := good lasting fun other member => again ⟨other, member⟩
      rw [accepted] at refused
      contradiction

/-- A setup in which every page is empty and every selector gives `null`. -/
def quietSetup : Setup Unit where
  config := .default
  selector := ⟨fun _ => none, fun _ => (), fun _ _ => .ok .null⟩
  fetch := fun _ _ link _ => .ok ⟨link, ""⟩
  pick := fun _ _ => none

/-- A disk with one selector on it. -/
def sampleDisk : Disk := ⟨[], [([['s', '.', 't', 'e', 'm', 'm', 'e']], .file (.text "h1"))]⟩

/-- A watch that is started, given a ticket, and started again. -/
def restartRun : List (Setup Unit × Operation) :=
  [.host (.openPath (.ofText "s.temme")), .host (.setActive ⟨"s.temme"⟩),
    .startWatch (some (.bare "page")), .beginEvaluation 4,
    .startWatch (some (.bare "page"))].map (quietSetup, ·)

/-- The first ticket of the first watch is stale under the second watch, whose present ticket has
the same number. -/
theorem first_ticket_stale_after_restart :
    let start := new (.onDisk sampleDisk)
    let moves := start.movesUntil restartRun 9
    start.history moves = [.began] ++ .issued ⟨1, 1, 0⟩ ::
        [.issued ⟨1, 2, 4⟩, .ended, .began, .issued ⟨3, 1, 0⟩] ∧
      (start.moveAll moves).session.checkTicket ⟨1, 1, 0⟩ = .error .stale := by
  have issued : (new (.onDisk sampleDisk)).history
      ((new (.onDisk sampleDisk)).movesUntil restartRun 9) = [.began] ++ .issued ⟨1, 1, 0⟩ ::
        [.issued ⟨1, 2, 4⟩, .ended, .began, .issued ⟨3, 1, 0⟩] := by decide +kernel
  exact ⟨issued, (checkTicket_of_history rfl issued).2.1.mpr (by decide)⟩

end Engine

end LiveSelector
