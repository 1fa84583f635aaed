import LiveSelector.Proofs.Engine.Bound
import LiveSelector.Proofs.Events.Routing
import LiveSelector.Proofs.Session.Tickets

namespace LiveSelector

/-! Which documents have diagnostics.  A check and an evaluation each leave one diagnostic of their
document or none, and both have to do with selectors only: a check looks at the language of the open
document, a watch was opened on a selector.  So every document that is listed has one diagnostic and
its path is one of a selector, also after the document has been closed. -/

variable {known : FilePath → String → Prop} {languageId : String} {id : DocumentId}

namespace DiagnosticStore

variable {store : DiagnosticStore} {shown : Option (List Diagnostic)}

/-- Every document that is listed has one diagnostic, and a path that is known for a language. -/
def Single (known : FilePath → String → Prop) (languageId : String) (store : DiagnosticStore) :
    Prop :=
  ∀ document ∈ store.documents,
    (store.get document).length = 1 ∧ known (.ofText document.text) languageId

theorem single_empty : Single known languageId empty := by
  intro document listed
  contradiction

theorem single_show? (single : Single known languageId store)
    (few : ∀ diagnostics, shown = some diagnostics →
      diagnostics.length ≤ 1 ∧ known (.ofText id.text) languageId) :
    Single known languageId (store.show? id shown) := by
  cases shown with
  | none => exact single
  | some diagnostics =>
      obtain ⟨atMostOne, path⟩ := few diagnostics rfl
      intro document listed
      simp only [show?, mem_documents_set, get_set] at listed ⊢
      by_cases same : id = document
      · rw [if_pos same] at listed ⊢
        have some_ : 0 < diagnostics.length := List.length_pos_iff.mpr listed
        rw [← same]
        exact ⟨by omega, path⟩
      · rw [if_neg same] at listed ⊢
        exact single document listed

end DiagnosticStore

namespace Engine

open DiagnosticStore (Single single_empty single_show?)

variable {Page : Type} {setup : Setup Page} {engine : Engine Page} {watch : Watch Page}
variable {config : Config} {workspace : Workspace}

theorem grammarOf_few {diagnostics : List Diagnostic} (keyed : workspace.Keyed)
    (labelled : workspace.Labelled known)
    (shown : (grammarOf setup workspace id).map GrammarCheck.shown = some diagnostics) :
    diagnostics.length ≤ 1 ∧ known (.ofText id.text) setup.config.languageId := by
  obtain ⟨check, found, rfl⟩ := Option.map_eq_some_iff.mp shown
  simp only [grammarOf] at found
  split at found
  · contradiction
  · rename_i document there
    split at found
    · contradiction
    · rename_i selector
      constructor
      · split at found
        · cases found
          exact Nat.zero_le 1
        · cases found
          exact Nat.le_refl 1
      · have language : document.languageId = setup.config.languageId := by simpa using selector
        rw [← language]
        exact labelled.language keyed there

theorem effectOf_few {changedLine : Nat} {diagnostics : List Diagnostic}
    (shown : (effectOf setup workspace watch changedLine).shown = some diagnostics) :
    diagnostics.length ≤ 1 := by
  simp only [effectOf] at shown
  split at shown
  · contradiction
  · split at shown
    · split at shown
      · cases shown
        exact Nat.zero_le 1
      · contradiction
    · split at shown
      · contradiction
      · cases shown
        exact Nat.le_refl 1

theorem openWatch_diagnostics (given : Option Link) :
    (engine.openWatch setup given).1.diagnostics = engine.diagnostics := by
  by_cases running : engine.session.state = .running
  · simp only [openWatch, if_pos running]
  · obtain ⟨hub, session, journal, stopped⟩ := stopWatch_frame engine
    obtain ⟨_, _, _, _, before, left, unopened | ⟨_, _, _, _, _, opening⟩⟩ :=
      openWatch_cases setup engine given running
    · rw [unopened.1, left, stopped]
    · rw [opening, left, stopped]
      rfl

/-- What is known of open documents, of the watch and of what is listed: their paths are known for
the languages that they are in or have been taken to be in. -/
structure Listed (known : FilePath → String → Prop) (languageId : String)
    (engine : Engine Page) : Prop where
  keyed : engine.workspace.Keyed
  labelled : engine.workspace.Labelled known
  bound : Bound (fun document _ => known (.ofText document.text) languageId) engine
  single : Single known languageId engine.diagnostics

theorem listed_new (disk : Disk) (languages : List LanguageRule) :
    Listed known languageId (new { Workspace.onDisk disk with languages } : Engine Page) :=
  ⟨Workspace.keyed_onDisk disk, Workspace.labelled_onDisk disk languages, bound_new _, single_empty⟩

theorem Listed.language (listed : Listed known languageId engine) {document : Document}
    (found : engine.workspace.document? id = some document) :
    known (.ofText id.text) document.languageId :=
  listed.labelled.language listed.keyed found

theorem labelled_move (labelled : engine.workspace.Labelled known)
    (current : ∀ path, known path (engine.workspace.languageOf path)) (move : Move) :
    (engine.move setup move).workspace.Labelled known := by
  cases move with
  | host action => exact Workspace.labelled_host labelled current action
  | _ => exact (move_tends setup engine rfl).labelled labelled current

theorem single_detect (listed : Listed known setup.config.languageId engine) :
    Single known setup.config.languageId (engine.detectGrammarErrors setup id).1.diagnostics := by
  rw [detectGrammarErrors_effect]
  exact single_show? listed.single fun _ shown => grammarOf_few listed.keyed listed.labelled shown

/-- A move sets or clears the diagnostics of one selector, or none. -/
theorem single_move (listed : Listed known setup.config.languageId engine) (move : Move) :
    Single known setup.config.languageId (engine.move setup move).diagnostics := by
  cases move with
  | host action => exact listed.single
  | activate =>
      have shown : Listed known setup.config.languageId (engine.enter engine.session.state) :=
        ⟨listed.keyed, listed.labelled, listed.bound, listed.single⟩
      simp only [Engine.move, activate]
      split
      · exact shown.single
      · exact single_detect shown
  | refuse reason => exact listed.single
  | runSelector given =>
      rw [Engine.move, (runSelector_frame setup engine given).2.2]
      exact listed.single
  | openWatch given =>
      rw [Engine.move, openWatch_diagnostics]
      exact listed.single
  | stopWatch =>
      obtain ⟨_, _, _, frame⟩ := stopWatch_frame engine
      rw [Engine.move, frame]
      exact listed.single
  | accept event =>
      have taken : (engine.accept setup event).1 =
          ((engine.checkChange setup event).1.dispatch event).1 := rfl
      obtain ⟨_, _, _, routed⟩ := dispatch_frame (engine.checkChange setup event).1 event
      rw [Engine.move, taken, routed]
      cases event with
      | changed document changes => exact single_detect listed
      | _ => exact listed.single
  | beginEvaluation changedLine =>
      obtain ⟨_, frame⟩ := beginEvaluation_frame engine changedLine
      rw [Engine.move, frame]
      exact listed.single
  | completeEvaluation ticket =>
      cases checked : engine.session.checkTicket ticket with
      | error reason =>
          rw [Engine.move, completeEvaluation_refused checked]
          exact listed.single
      | ok watch =>
          rw [Engine.move, completeEvaluation_effect checked]
          apply single_show? listed.single
          intro diagnostics shown
          exact ⟨effectOf_few shown, listed.bound watch (Session.watch_of_checkTicket checked)⟩
  | detectGrammarErrors document => exact single_detect listed

theorem listed_move (listed : Listed known setup.config.languageId engine)
    (current : ∀ path, known path (engine.workspace.languageOf path)) (move : Move) :
    Listed known setup.config.languageId (engine.move setup move) := by
  refine ⟨(move_leads setup engine move).keyed listed.keyed,
    labelled_move listed.labelled current move, bound_move listed.bound ?_ move,
    single_move listed move⟩
  intro document focused selector
  rw [← selector]
  exact listed.language (Workspace.activeDocument?_open focused)

/-- The engine's own operations change no rule, so what is known of paths stays current inside them. -/
theorem listed_perform (listed : Listed known setup.config.languageId engine)
    (current : ∀ path, known path (engine.workspace.languageOf path)) (operation : Operation) :
    Listed known setup.config.languageId (engine.perform setup operation) := by
  cases host : operation.isHost with
  | true =>
      cases operation with
      | host action => exact listed_move listed current (.host action)
      | _ => contradiction
  | false =>
      have inside : ∀ (now : Engine Page) move, move.isHost = false →
          (Listed known setup.config.languageId now ∧
            now.workspace.languages = engine.workspace.languages) →
          Listed known setup.config.languageId (now.move setup move) ∧
            (now.move setup move).workspace.languages = engine.workspace.languages := by
        intro now move own here
        constructor
        · apply listed_move here.1
          intro path
          rw [Workspace.languageOf_congr here.2]
          exact current path
        · exact (move_languages own).trans here.2
      exact (performOwn_preserves host inside ⟨listed, rfl⟩).1

/-- What the workspaces of a run say of paths covers the documents that it leaves listed. -/
theorem listed_performAll {run : List (Setup Page × Operation)}
    (listed : Listed known languageId engine)
    (current : ∀ past, past <+: run →
      ∀ path, known path ((engine.performAll past).workspace.languageOf path))
    (configured : ∀ call ∈ run, call.1.config.languageId = languageId) :
    Listed known languageId (engine.performAll run) := by
  induction run generalizing engine with
  | nil => exact listed
  | cons call rest ih =>
      have same : call.1.config.languageId = languageId := configured call (by simp)
      have here : Listed known languageId (engine.perform call.1 call.2) := by
        subst same
        exact listed_perform listed (current [] List.nil_prefix) call.2
      apply ih here
      · intro past under
        exact current (call :: past) (List.cons_prefix_cons.mpr ⟨rfl, under⟩)
      · exact fun call member => configured call (List.mem_cons_of_mem _ member)

end Engine

/-- Whether an operation leaves alone which language the files of an extension are in. -/
def Operation.keepsRules : Operation → Bool
  | .host action => action.keepsRules
  | _ => true

namespace Engine

variable {Page : Type} {setup : Setup Page} {engine : Engine Page} {config : Config}

theorem perform_languages {operation : Operation} (kept : operation.keepsRules = true) :
    (engine.perform setup operation).workspace.languages = engine.workspace.languages := by
  cases host : operation.isHost with
  | true =>
      cases operation with
      | host action => exact Workspace.host_languages kept
      | _ => contradiction
  | false =>
      have inside : ∀ (now : Engine Page) move, move.isHost = false →
          now.workspace.languages = engine.workspace.languages →
          (now.move setup move).workspace.languages = engine.workspace.languages :=
        fun now move own here => (move_languages own).trans here
      exact performOwn_preserves host inside rfl

theorem performAll_languages (engine : Engine Page) (run : List (Setup Page × Operation))
    (kept : ∀ call ∈ run, call.2.keepsRules = true) :
    (engine.performAll run).workspace.languages = engine.workspace.languages := by
  induction run generalizing engine with
  | nil => rfl
  | cons call rest ih =>
      have here : (engine.perform call.1 call.2).workspace.languages = engine.workspace.languages :=
        perform_languages (kept call (by simp))
      have later := ih (engine.perform call.1 call.2) fun call member =>
        kept call (List.mem_cons_of_mem _ member)
      exact later.trans here

/-- As long as nobody changes the rules, the present ones are those of the whole run. -/
theorem listed_present (disk : Disk) (languages : List LanguageRule)
    {run : List (Setup Page × Operation)} (configured : ∀ call ∈ run, call.1.config = config)
    (kept : ∀ call ∈ run, call.2.keepsRules = true) :
    let engine := (new { Workspace.onDisk disk with languages } : Engine Page).performAll run
    Listed (fun path language => engine.workspace.languageOf path = language) config.languageId
      engine := by
  intro engine
  apply listed_performAll (listed_new disk languages)
  · intro past under path
    apply Workspace.languageOf_congr
    have now := performAll_languages (new { Workspace.onDisk disk with languages }) run kept
    have then_ := performAll_languages (new { Workspace.onDisk disk with languages }) past
      fun call inside => kept call (under.subset inside)
    exact now.trans then_.symm
  · intro call inside
    rw [configured call inside]

/-- After any run every document that has diagnostics has exactly one, whether or not it is still open,
and some workspace of the run takes its path for one of a selector.  If nobody has changed the rules
meanwhile, the present workspace does. -/
theorem listed_once {disk : Disk} {languages : List LanguageRule}
    {run : List (Setup Page × Operation)} (configured : ∀ call ∈ run, call.1.config = config) :
    let started : Engine Page := new { Workspace.onDisk disk with languages }
    let engine := started.performAll run
    ∀ document ∈ engine.diagnostics.documents,
      (engine.diagnostics.get document).length = 1 ∧
        (∃ past, past <+: run ∧
          (started.performAll past).workspace.languageOf (.ofText document.text) =
            config.languageId) ∧
        ((∀ call ∈ run, call.2.keepsRules = true) →
          engine.workspace.languageOf (.ofText document.text) = config.languageId) := by
  intro started engine document member
  have listed : Listed
      (fun path language => ∃ past, past <+: run ∧
        (started.performAll past).workspace.languageOf path = language)
      config.languageId engine := by
    apply listed_performAll (listed_new disk languages)
    · exact fun past under path => ⟨past, under, rfl⟩
    · intro call inside
      rw [configured call inside]
  obtain ⟨one, past, under, gave⟩ := listed.single document member
  refine ⟨one, ⟨past, under, gave⟩, ?_⟩
  intro kept
  exact ((listed_present _ _ configured kept).single document member).2

/-- A setup in which every selector is faulty. -/
def faultySetup : Setup Unit :=
  { quietSetup with selector := .faulty ⟨Fault.syntaxName, "unexpected end", none⟩ }

/-- A faulty selector opened, checked twice and closed. -/
def faultyRun : List (Setup Unit × Operation) :=
  [.host (.openPath (.ofText "s.temme")), .detectGrammarErrors ⟨"s.temme"⟩,
    .detectGrammarErrors ⟨"s.temme"⟩, .host (.close ⟨"s.temme"⟩)].map (faultySetup, ·)

/-- The selector is listed once, also when it is no longer open. -/
theorem closed_selector_listed :
    let engine := (new (.onDisk sampleDisk)).performAll faultyRun
    engine.workspace.isOpen ⟨"s.temme"⟩ = false ∧
      engine.diagnostics.documents = [⟨"s.temme"⟩] ∧
      (engine.diagnostics.get ⟨"s.temme"⟩).length = 1 ∧
      engine.workspace.languageOf (.ofText "s.temme") = "temme" := by
  intro engine
  have configured : ∀ call ∈ faultyRun, call.1.config = .default := by decide
  have kept : ∀ call ∈ faultyRun, call.2.keepsRules = true := by decide
  have documents : engine.diagnostics.documents = [⟨"s.temme"⟩] := by decide +kernel
  have member : ⟨"s.temme"⟩ ∈ ((new { Workspace.onDisk sampleDisk with
      languages := Workspace.firstLanguages }).performAll faultyRun).diagnostics.documents :=
    documents ▸ List.mem_singleton_self _
  obtain ⟨one, _, language⟩ := listed_once configured ⟨"s.temme"⟩ member
  exact ⟨by decide +kernel, documents, one, language kept⟩

end Engine

end LiveSelector
