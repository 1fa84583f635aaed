import LiveSelector.Proofs.Engine.Effects
import LiveSelector.Proofs.Engine.Frames
import LiveSelector.Proofs.Session.Settled

namespace LiveSelector

/-! What the user has been asked is on record and nowhere looked at, but when the next question is
put: a call that has its link does the same whatever was asked before. -/

variable {Page : Type} {setup : Setup Page} {engine : Engine Page}
variable {document : Document} {link : Link} {prompts : List Prompt}

namespace Engine

/-- An engine with another record of what the user was asked. -/
def retold (engine : Engine Page) (prompts : List Prompt) : Engine Page :=
  { engine with journal := { engine.journal with prompts } }

theorem retold_self : engine.retold engine.journal.prompts = engine := rfl

@[simp] theorem retold_retold (later : List Prompt) :
    (engine.retold prompts).retold later = engine.retold later := rfl

theorem enter_retold (state : SessionState) :
    (engine.retold prompts).enter state = (engine.enter state).retold prompts := rfl

theorem load_retold :
    (engine.retold prompts).load setup document link =
      ((engine.load setup document link).1.retold prompts,
        (engine.load setup document link).2) := by
  simp only [load, retold]
  split
  · rfl
  · rfl

theorem openOutput_retold :
    (engine.retold prompts).openOutput setup document =
      ((engine.openOutput setup document).1.retold prompts,
        (engine.openOutput setup document).2) := by
  simp only [openOutput, retold]
  split
  · rfl
  · split
    · rfl
    · split
      · rfl
      · rfl

theorem deliver_retold (value : Json) :
    (engine.retold prompts).deliver setup document value =
      ((engine.deliver setup document value).1.retold prompts,
        (engine.deliver setup document value).2) := by
  simp only [deliver, openOutput_retold]
  rcases engine.openOutput setup document with ⟨opened, reason | output⟩
  · rfl
  · simp only [writeOutput, retold]
    rcases opened.workspace.replaceAll output.id value.render with ⟨written, reason | done⟩
    · rfl
    · rfl

theorem runOnce_retold :
    (engine.retold prompts).runOnce setup document link =
      ((engine.runOnce setup document link).1.retold prompts,
        (engine.runOnce setup document link).2) := by
  simp only [runOnce, load_retold]
  rcases engine.load setup document link with ⟨loaded, reason | ⟨content, page⟩⟩
  · rfl
  · simp only
    split
    · exact deliver_retold _
    · rfl
    · rfl

theorem prepare_given :
    (engine.retold prompts).prepare setup (some link) =
      ((engine.prepare setup (some link)).1.retold prompts,
        (engine.prepare setup (some link)).2) := by
  simp only [prepare, retold]
  split
  · rfl
  · split
    · rfl
    · rfl

theorem runSelector_retold :
    (engine.retold prompts).runSelector setup (some link) =
      ((engine.runSelector setup (some link)).1.retold prompts,
        (engine.runSelector setup (some link)).2) := by
  have state : (engine.retold prompts).session = engine.session := rfl
  simp only [runSelector, state, prepare_given]
  split
  · rfl
  · rcases engine.prepare setup (some link) with ⟨prepared, reason | ⟨document, found⟩⟩
    · rfl
    · simp only [enter_retold, runOnce_retold]
      rcases (prepared.enter .running).runOnce setup document found with ⟨after, reason | output⟩
      · rfl
      · rfl

theorem stopWatch_retold (engine : Engine Page) (prompts : List Prompt) :
    (engine.retold prompts).stopWatch =
      (engine.stopWatch.1.retold prompts, engine.stopWatch.2) := by
  simp only [stopWatch, retold]
  split
  · rfl
  · rfl

theorem openWatch_retold :
    (engine.retold prompts).openWatch setup (some link) =
      ((engine.openWatch setup (some link)).1.retold prompts,
        (engine.openWatch setup (some link)).2) := by
  have state : (engine.retold prompts).session = engine.session := rfl
  simp only [openWatch, state, stopWatch_retold, prepare_given]
  split
  · rfl
  · rcases engine.stopWatch.1.prepare setup (some link) with
      ⟨prepared, reason | ⟨document, found⟩⟩
    · rfl
    · simp only [load_retold]
      rcases prepared.load setup document found with ⟨loaded, reason | ⟨content, page⟩⟩
      · rfl
      · simp only [openOutput_retold]
        rcases loaded.openOutput setup document with ⟨opened, reason | output⟩
        · rfl
        · rfl

theorem completeEvaluation_retold (ticket : Ticket) :
    (engine.retold prompts).completeEvaluation setup ticket =
      ((engine.completeEvaluation setup ticket).1.retold prompts,
        (engine.completeEvaluation setup ticket).2) := by
  cases checked : engine.session.checkTicket ticket with
  | error reason =>
      have again : (engine.retold prompts).session.checkTicket ticket = .error reason := checked
      rw [completeEvaluation_refused checked, completeEvaluation_refused again]
  | ok watch =>
      have again : (engine.retold prompts).session.checkTicket ticket = .ok watch := checked
      rw [completeEvaluation_effect checked, completeEvaluation_effect again]
      rfl

theorem evaluateFirst_retold :
    (engine.retold prompts).evaluateFirst setup =
      ((engine.evaluateFirst setup).1.retold prompts, (engine.evaluateFirst setup).2) := by
  have begun : (engine.retold prompts).beginEvaluation 0 =
      ((engine.beginEvaluation 0).1.retold prompts, (engine.beginEvaluation 0).2) := by
    simp only [beginEvaluation, retold]
    split
    · rfl
    · rfl
  simp only [evaluateFirst, begun]
  rcases engine.beginEvaluation 0 with ⟨issued, none | ticket⟩
  · rfl
  · exact completeEvaluation_retold ticket

theorem startWatch_retold :
    (engine.retold prompts).startWatch setup (some link) =
      ((engine.startWatch setup (some link)).1.retold prompts,
        (engine.startWatch setup (some link)).2) := by
  simp only [startWatch, openWatch_retold]
  rcases engine.openWatch setup (some link) with ⟨after, reason | reason | opened⟩
  · rfl
  · rfl
  · simp only [evaluateFirst_retold]

end Engine

end LiveSelector
