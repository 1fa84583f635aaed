import LiveSelector.Proofs.Engine.Hosted
import LiveSelector.Proofs.Journal.Trails
import LiveSelector.Proofs.Session.History

namespace LiveSelector

/-! What a run fetches and where the page of its watch comes from.  A call that gets as far as
fetching fetches once and loads what it gets once; no other call does either.  The page of a watch
is what the call that opened it has fetched and loaded, and stays that until the watch ends. -/

variable {Page : Type} {setup : Setup Page} {engine before middle after : Engine Page}
variable {given : Option Link} {watch : Watch Page} {document : Document} {link : Link}

/-- What a fetcher has answered, one answer a call. -/
abbrev Answers := List (Except FetchError FetchedContent)

/-- A step fetches as often as it is answered, and loads as often as it is answered well. -/
structure Fetches (before : Engine Page) (answers : Answers) (after : Engine Page) : Prop where
  fetches : after.fetches = before.fetches + answers.length
  loads : after.loads = before.loads + answers.countP Except.isOk

namespace Fetches

theorem none (fetches : after.fetches = before.fetches) (loads : after.loads = before.loads) :
    Fetches before [] after :=
  ⟨fetches, loads⟩

theorem trans {first second : Answers} (one : Fetches before first middle)
    (two : Fetches middle second after) : Fetches before (first ++ second) after where
  fetches := by rw [two.fetches, one.fetches, List.length_append, Nat.add_assoc]
  loads := by rw [two.loads, one.loads, List.countP_append, Nat.add_assoc]

theorem of_trail {trail : Trail} (leaves : Leaves before trail after) (fetches : trail.fetches = 0)
    (loads : trail.loads = 0) : Fetches before [] after :=
  .none (by rw [leaves.fetches, fetches, Nat.add_zero]) (by rw [leaves.loads, loads, Nat.add_zero])

end Fetches

namespace Engine

/-- The answer to a call that is to use a link, given or of the document in focus. -/
def answers (setup : Setup Page) (engine : Engine Page) (given : Option Link) : Answers :=
  match (engine.prepare setup given).2 with
  | .error _ => []
  | .ok (document, link) =>
    [setup.fetch engine.fetches engine.workspace.disk link document.directory?]

/-- The answers that an operation gets from the fetcher. -/
def answersOf (setup : Setup Page) (engine : Engine Page) (operation : Operation) : Answers :=
  match plain operation with
  | .runSelector given => if engine.session.state = .ready then engine.answers setup given else []
  | .startWatch given =>
    if engine.session.state = .running then [] else engine.answers setup given
  | _ => []

theorem answers_length_le (given : Option Link) : (engine.answers setup given).length ≤ 1 := by
  simp only [answers]
  split <;> simp

theorem load_fetches (setup : Setup Page) (engine : Engine Page) (document : Document)
    (link : Link) :
    Fetches engine [setup.fetch engine.fetches engine.workspace.disk link document.directory?]
      (engine.load setup document link).1 := by
  simp only [load]
  split
  · rename_i reason refused
    exact ⟨rfl, by simp [refused, Except.isOk, Except.toBool]⟩
  · rename_i content fetched
    exact ⟨rfl, by simp [fetched, Except.isOk, Except.toBool]⟩

theorem runOnce_fetches (setup : Setup Page) (engine : Engine Page) (document : Document)
    (link : Link) :
    Fetches engine [setup.fetch engine.fetches engine.workspace.disk link document.directory?]
      (engine.runOnce setup document link).1 := by
  have loaded := load_fetches setup engine document link
  simp only [runOnce]
  rcases loading : engine.load setup document link with ⟨ready, reason | ⟨content, page⟩⟩
  · rw [loading] at loaded
    exact loaded
  · rw [loading] at loaded
    simp only
    split
    · rename_i value _
      exact loaded.trans (.of_trail (deliver_trail setup ready document value) rfl rfl)
    · exact loaded
    · exact loaded

theorem runSelector_fetches (ready : engine.session.state = .ready) :
    Fetches engine (engine.answers setup given) (engine.runSelector setup given).1 := by
  simp only [runSelector, ready, SessionState.isReady, answers]
  obtain ⟨notices, prompts, asked⟩ := prepare_frame setup engine given
  rcases preparing : engine.prepare setup given with ⟨prepared, reason | ⟨document, link⟩⟩
  · rw [preparing] at asked
    simp only at asked ⊢
    rw [asked]
    exact .none rfl rfl
  · rw [preparing] at asked
    simp only at asked ⊢
    have ran := runOnce_fetches setup (prepared.enter .running) document link
    rcases running : (prepared.enter .running).runOnce setup document link with ⟨ended, result⟩
    rw [running, asked] at ran
    cases result with
    | error reason => exact ⟨ran.fetches, ran.loads⟩
    | ok output => exact ⟨ran.fetches, ran.loads⟩

theorem prepare_stopWatch (setup : Setup Page) (engine : Engine Page) (given : Option Link) :
    (engine.stopWatch.1.prepare setup given).2 = (engine.prepare setup given).2 := by
  have same : engine.stopWatch.1.workspace = engine.workspace ∧
      engine.stopWatch.1.journal.prompts = engine.journal.prompts := by
    simp only [stopWatch]
    split
    · exact ⟨rfl, rfl⟩
    · exact ⟨rfl, rfl⟩
  simp only [prepare, same.1, same.2]
  split
  · rfl
  · split
    · rfl
    · split
      · rfl
      · split <;> rfl

theorem stopWatch_counts :
    engine.stopWatch.1.fetches = engine.fetches ∧ engine.stopWatch.1.loads = engine.loads := by
  obtain ⟨hub, session, journal, left⟩ := stopWatch_frame engine
  rw [left]
  exact ⟨rfl, rfl⟩

theorem answers_stopWatch :
    engine.stopWatch.1.answers setup given = engine.answers setup given := by
  simp only [answers, prepare_stopWatch, stopWatch_workspace, stopWatch_counts.1]

theorem openWatch_fetches (setup : Setup Page) (given : Option Link)
    (notRunning : engine.session.state ≠ .running) :
    Fetches engine (engine.answers setup given) (engine.openWatch setup given).1 := by
  have left : Fetches engine [] engine.stopWatch.1 := .none stopWatch_counts.1 stopWatch_counts.2
  suffices later : Fetches engine.stopWatch.1 (engine.answers setup given)
      (engine.openWatch setup given).1 from left.trans later
  rw [← answers_stopWatch]
  simp only [openWatch, if_neg notRunning]
  generalize engine.stopWatch.1 = idle
  simp only [answers]
  obtain ⟨notices, prompts, asked⟩ := prepare_frame setup idle given
  rcases preparing : idle.prepare setup given with ⟨prepared, reason | ⟨document, link⟩⟩
  · rw [preparing] at asked
    simp only at asked ⊢
    rw [asked]
    exact .none rfl rfl
  · rw [preparing] at asked
    have loaded := load_fetches setup prepared document link
    simp only at asked ⊢
    rcases loading : prepared.load setup document link with ⟨ready, reason | ⟨content, page⟩⟩
    · rw [loading, asked] at loaded
      exact ⟨loaded.fetches, loaded.loads⟩
    · rw [loading, asked] at loaded
      obtain ⟨workspace, shown⟩ := openOutput_frame setup ready document
      simp only
      rcases opening : ready.openOutput setup document with ⟨opened, reason | output⟩
      · rw [opening] at shown
        simp only at shown ⊢
        rw [shown]
        exact ⟨loaded.fetches, loaded.loads⟩
      · rw [opening] at shown
        simp only at shown ⊢
        rw [shown]
        exact ⟨loaded.fetches, loaded.loads⟩

theorem evaluateFirst_fetches (setup : Setup Page) (engine : Engine Page) :
    Fetches engine [] (engine.evaluateFirst setup).1 := by
  have ticketed := beginEvaluation_trail engine 0
  simp only [evaluateFirst]
  rcases issuing : engine.beginEvaluation 0 with ⟨issued, none | ticket⟩
  · rw [issuing] at ticketed
    exact .of_trail ticketed rfl rfl
  · rw [issuing] at ticketed
    exact (Fetches.of_trail ticketed rfl rfl).trans
      (.of_trail (completeEvaluation_trail setup issued ticket) rfl rfl)

theorem startWatch_fetches (notRunning : engine.session.state ≠ .running) :
    Fetches engine (engine.answers setup given) (engine.startWatch setup given).1 := by
  have begun := openWatch_fetches setup given notRunning
  simp only [startWatch]
  rcases opening : engine.openWatch setup given with ⟨after, reason | reason | opened⟩
  · rw [opening] at begun
    exact begun
  · rw [opening] at begun
    exact begun
  · rw [opening] at begun
    have both := begun.trans (evaluateFirst_fetches setup after)
    rw [List.append_nil] at both
    exact both

theorem eventsTrail_counts (handled : List HandledEvent) :
    (eventsTrail handled).fetches = 0 ∧ (eventsTrail handled).loads = 0 := by
  have still (trails : List Trail)
      (each : ∀ trail ∈ trails, trail.fetches = 0 ∧ trail.loads = 0) :
      (Trail.joined trails).fetches = 0 ∧ (Trail.joined trails).loads = 0 := by
    induction trails with
    | nil => exact ⟨rfl, rfl⟩
    | cons first rest ih =>
        obtain ⟨here, later⟩ := List.forall_mem_cons.mp each
        simp only [Trail.joined, Trail.andThen, here.1, here.2, ih later, Nat.add_zero, and_self]
  have accepted := still (handled.map acceptTrail) (by
    intro trail member
    obtain ⟨entry, _, rfl⟩ := List.mem_map.mp member
    simp only [acceptTrail]
    split <;> exact ⟨rfl, rfl⟩)
  have finished := still (handled.map finishTrail) (by
    intro trail member
    obtain ⟨entry, _, rfl⟩ := List.mem_map.mp member
    exact ⟨rfl, rfl⟩)
  simp only [eventsTrail, Trail.andThen, accepted, finished, Nat.add_zero, and_self]

/-- An operation gets its answers from the fetcher, and no others, and loads each good one. -/
theorem perform_fetches (operation : Operation) :
    Fetches engine (engine.answersOf setup operation) (engine.perform setup operation) := by
  have trail := perform_trail setup engine (plain operation)
  rw [← perform_plain, answersOf]
  cases reading : plain operation with
  | runSelector given =>
      by_cases ready : engine.session.state = .ready
      · simp only [if_pos ready]
        exact runSelector_fetches ready
      · have busy : engine.session.state.isReady = false := by
          simpa [SessionState.isReady] using ready
        simp only [if_neg ready, perform, runSelector, busy, Bool.not_false, if_true]
        exact .none rfl rfl
  | startWatch given =>
      by_cases running : engine.session.state = .running
      · simp only [if_pos running, perform, startWatch, openWatch]
        exact .none rfl rfl
      · simp only [if_neg running]
        exact startWatch_fetches running
  | execute command argument =>
      obtain ⟨reason, named⟩ := plain_execute reading
      simp only [reading, trailOf, named] at trail
      exact .of_trail trail rfl rfl
  | handleEvent event =>
      rw [reading] at trail
      exact .of_trail trail (eventsTrail_counts _).1 (eventsTrail_counts _).2
  | handleEvents events =>
      rw [reading] at trail
      exact .of_trail trail (eventsTrail_counts _).1 (eventsTrail_counts _).2
  | _ =>
      rw [reading] at trail
      exact .of_trail trail rfl rfl

theorem answersOf_length (operation : Operation) :
    (engine.answersOf setup operation).length = (engine.trailOf setup operation).fetches :=
  Nat.add_left_cancel
    ((perform_fetches operation).fetches.symm.trans (perform_trail setup engine operation).fetches)

theorem answersOf_length_le (operation : Operation) :
    (engine.answersOf setup operation).length ≤ 1 := by
  simp only [answersOf]
  split
  · split
    · exact answers_length_le _
    · exact Nat.zero_le 1
  · split
    · exact Nat.zero_le 1
    · exact answers_length_le _
  · exact Nat.zero_le 1

theorem answersOf_eq_nil {operation : Operation}
    (still : (engine.trailOf setup operation).fetches = 0) :
    engine.answersOf setup operation = [] :=
  List.eq_nil_of_length_eq_zero ((answersOf_length operation).trans still)

theorem answersOf_runSelector
    (idle : (∃ state, (engine.runSelector setup given).2 = .error (.busy state)) ∨
      ∃ reason, (engine.runSelector setup given).2 = .ok (.skipped reason)) :
    engine.answersOf setup (.runSelector given) = [] := by
  rcases idle with ⟨state, answer⟩ | ⟨reason, answer⟩
  · exact answersOf_eq_nil (by rw [trailOf, answer, runTrail])
  · exact answersOf_eq_nil (by rw [trailOf, answer, runTrail])

theorem answersOf_startWatch
    (idle : (∃ state, (engine.startWatch setup given).2 = .error (.busy state)) ∨
      ∃ reason, (engine.startWatch setup given).2 = .ok (.skipped reason)) :
    engine.answersOf setup (.startWatch given) = [] := by
  rcases idle with ⟨state, answer⟩ | ⟨reason, answer⟩
  · exact answersOf_eq_nil (by rw [trailOf, answer, watchTrail])
  · exact answersOf_eq_nil (by rw [trailOf, answer, watchTrail])

/-- The answers that a run gets from the fetcher. -/
def answersIn (engine : Engine Page) : List (Setup Page × Operation) → Answers
  | [] => []
  | (setup, operation) :: rest =>
    engine.answersOf setup operation ++ (engine.perform setup operation).answersIn rest

theorem performAll_fetches (run : List (Setup Page × Operation)) :
    Fetches engine (engine.answersIn run) (engine.performAll run) := by
  induction run generalizing engine with
  | nil => exact .none rfl rfl
  | cons call rest ih => exact (perform_fetches call.2).trans ih

/-- The call that opened a watch: it fetched the page of the watch and loaded it. -/
inductive OpenedBy (engine : Engine Page) (setup : Setup Page) (operation : Operation)
    (watch : Watch Page) : Prop where
  | intro (given : Option Link) (content : FetchedContent) (link : Link)
      (initial : EvaluationReport) (call : plain operation = .startWatch given)
      (fetched : engine.answersOf setup operation = [.ok content])
      (linked : watch.link = content.link) (text : watch.html = content.html)
      (page : watch.page = setup.selector.load content.html)
      (answer : (engine.startWatch setup given).2 =
        .ok (.started watch.document link watch.output initial))

theorem OpenedBy.of_revision {operation : Operation} {number : Nat}
    (opened : OpenedBy engine setup operation { watch with revision := number }) :
    OpenedBy engine setup operation watch := by
  obtain ⟨given, content, link, initial, call, fetched, linked, text, page, answer⟩ := opened
  exact .intro given content link initial call fetched linked text page answer

theorem openWatch_page {opened : OpenedWatch}
    (opening : engine.openWatch setup given = (after, .ok (.ok opened))) :
    ∃ content, engine.answers setup given = [.ok content] ∧
      ∃ watch, after.session.watch = some watch ∧ watch.document = opened.document ∧
        watch.output = opened.output ∧ watch.link = content.link ∧ watch.html = content.html ∧
        watch.page = setup.selector.load content.html := by
  rw [← answers_stopWatch]
  simp only [openWatch] at opening
  split at opening
  · cases opening
  · generalize engine.stopWatch.1 = idle at opening ⊢
    obtain ⟨notices, prompts, asked⟩ := prepare_frame setup idle given
    rcases preparing : idle.prepare setup given with ⟨prepared, reason | ⟨document, link⟩⟩
    · rw [preparing] at opening
      cases opening
    · rw [preparing] at opening asked
      simp only [answers, preparing]
      simp only [load] at opening
      simp only at asked
      rw [asked] at opening
      simp only at opening
      cases fetched : setup.fetch idle.fetches idle.workspace.disk link document.directory? with
      | error reason =>
          rw [fetched] at opening
          cases opening
      | ok content =>
          rw [fetched] at opening
          simp only at opening
          split at opening
          · cases opening
          · cases opening
            exact ⟨content, rfl, _, rfl, rfl, rfl, rfl, rfl, rfl⟩

/-- Moves none of which opens a watch leave the one there is, if any, or end it. -/
theorem watch_of_moveAll {moves : List (Setup Page × Move)}
    (unopened : ∀ step ∈ moves, ∀ given, step.2 ≠ .openWatch given)
    (installed : (engine.moveAll moves).session.watch = some watch) :
    ∃ number, engine.session.watch = some { watch with revision := number } := by
  induction moves generalizing engine with
  | nil => exact ⟨watch.revision, installed⟩
  | cons step rest ih =>
      obtain ⟨here, later⟩ := List.forall_mem_cons.mp unopened
      obtain ⟨number, kept⟩ := ih later installed
      rcases watch_of_move kept with before | ⟨given, opened, opening, _⟩
      · exact before
      · exact absurd opening (here given)

theorem movesOf_unopened {operation : Operation}
    (other : ∀ given, plain operation ≠ .startWatch given) (given : Option Link) :
    .openWatch given ∉ engine.movesOf setup (plain operation) := by
  intro member
  cases reading : plain operation with
  | startWatch link => exact other link reading
  | execute command argument =>
      obtain ⟨reason, named⟩ := plain_execute reading
      rw [reading, movesOf, named] at member
      cases List.mem_singleton.mp member
  | handleEvent event =>
      rw [reading] at member
      rcases movesOf_handleEvent member with ⟨_, same⟩ | ⟨_, same⟩
      · cases same
      · cases same
  | handleEvents events =>
      rw [reading] at member
      rcases movesOf_handleEvents member with ⟨_, same⟩ | ⟨_, same⟩
      · cases same
      · cases same
  | _ =>
      rw [reading] at member
      cases List.mem_singleton.mp member

theorem watch_of_startWatch
    (installed : (engine.startWatch setup given).1.session.watch = some watch) :
    (∃ number, engine.session.watch = some { watch with revision := number }) ∨
      ∃ begun opened number, engine.openWatch setup given = (begun, .ok (.ok opened)) ∧
        begun.session.watch = some { watch with revision := number } := by
  have unopened (answer : ∀ opened, (engine.openWatch setup given).2 ≠ .ok (.ok opened))
      (there : (engine.move setup (.openWatch given)).session.watch = some watch) :
      ∃ number, engine.session.watch = some { watch with revision := number } := by
    rcases watch_of_move there with before | ⟨other, opened, same, opening⟩
    · exact before
    · cases same
      exact absurd (by rw [opening]) (answer opened)
  simp only [move, startWatch] at unopened installed
  rcases opening : engine.openWatch setup given with ⟨begun, reason | reason | opened⟩
  · rw [opening] at unopened installed
    exact .inl (unopened (by simp) installed)
  · rw [opening] at unopened installed
    exact .inl (unopened (by simp) installed)
  · rw [opening] at installed
    -- The first evaluation of a watch does no more to it than number a ticket.
    simp only [evaluateFirst_moves] at installed
    obtain ⟨number, here⟩ := watch_of_moveAll (by simp) installed
    exact .inr ⟨begun, opened, number, rfl, here⟩

/-- A watch after an operation is the one before it, or the operation has opened it. -/
theorem watch_of_perform {operation : Operation}
    (installed : (engine.perform setup operation).session.watch = some watch) :
    (∃ number, engine.session.watch = some { watch with revision := number }) ∨
      OpenedBy engine setup operation watch := by
  rw [← perform_plain] at installed
  by_cases starts : ∃ given, plain operation = .startWatch given
  · obtain ⟨given, call⟩ := starts
    rw [call] at installed
    rcases watch_of_startWatch installed with before | ⟨begun, opened, number, opening, here⟩
    · exact .inl before
    · obtain ⟨content, fetched, first, there, document, output, linked, text, page⟩ :=
        openWatch_page opening
      cases Option.some.inj (here.symm.trans there)
      have notRunning : engine.session.state ≠ .running := by
        intro running
        simp [openWatch, running] at opening
      refine .inr (.intro given content opened.link (begun.evaluateFirst setup).2 call ?_ linked
        text page ?_)
      · rw [answersOf, call]
        simp only [if_neg notRunning, fetched]
      · simp only at document output
        simp only [startWatch, opening, document, output]
  · have other : ∀ given, plain operation ≠ .startWatch given :=
      fun given call => starts ⟨given, call⟩
    rw [perform_moves] at installed
    refine .inl (watch_of_moveAll (fun step member given same => ?_) installed)
    obtain ⟨move, inside, rfl⟩ := List.mem_map.mp member
    cases same
    exact movesOf_unopened other given inside

/-- A watch is there all through a run. -/
def Keeps (engine : Engine Page) (run : List (Setup Page × Operation)) (watch : Watch Page) :
    Prop :=
  ∀ early, early <+: run →
    ∃ number, (engine.performAll early).session.watch = some { watch with revision := number }

/-- A watch after a run has been there all through it, or a call of the run has opened it and it has
been there ever since. -/
theorem watch_of_run {run : List (Setup Page × Operation)}
    (installed : (engine.performAll run).session.watch = some watch) :
    engine.Keeps run watch ∨
      ∃ early setup operation late, run = early ++ (setup, operation) :: late ∧
        OpenedBy (engine.performAll early) setup operation watch ∧
        ((engine.performAll early).perform setup operation).Keeps late watch := by
  induction run generalizing engine with
  | nil =>
      refine .inl fun early short => ⟨watch.revision, ?_⟩
      rw [List.prefix_nil.mp short]
      exact installed
  | cons call rest ih =>
      obtain ⟨setup, operation⟩ := call
      rcases ih installed with kept | ⟨early, other, later, late, same, opened, since⟩
      · obtain ⟨number, here⟩ := kept [] List.nil_prefix
        rcases watch_of_perform here with before | opened
        · refine .inl fun early short => ?_
          rcases List.prefix_cons_iff.mp short with rfl | ⟨tail, rfl, shorter⟩
          · exact before
          · exact kept tail shorter
        · exact .inr ⟨[], setup, operation, rest, rfl, opened.of_revision, kept⟩
      · refine .inr ⟨(setup, operation) :: early, other, later, late, ?_, opened, since⟩
        rw [same, List.cons_append]

end Engine

end LiveSelector
