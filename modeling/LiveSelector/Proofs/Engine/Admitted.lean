import LiveSelector.Proofs.Engine.Chosen
import LiveSelector.Proofs.Link.Bases

namespace LiveSelector

/-! Links that a command may be given.  A command's argument is looked at without a base directory,
and the link that it names is followed from the directory of some document later on.  What is
admitted then leads somewhere from every directory, so that a fetch of it fails for what the disk or
the web answers and never for the link. -/

/-- Why the web gives no page for a URL. -/
inductive WebError where
  | io (reason : DiskError)
  | status (code : Nat)
  | transport (text : String)
  | tooLarge (limit : Nat)

def WebError.cause : WebError → FetchCause
  | .io reason => .io reason
  | .status code => .status code
  | .transport text => .transport text
  | .tooLarge limit => .tooLarge limit

/-- The web that gives some answers. -/
def Web.answering (answers : Url → Except WebError String) : Web :=
  fun url => (answers url).mapError WebError.cause

/-- The failure is the link's. -/
def FetchError.BlamesLink (error : FetchError) : Prop :=
  ∃ reason, error.cause = .link reason

def EngineError.BlamesLink (error : EngineError) : Prop :=
  ∃ failure : FetchError, error = .fetch failure ∧ failure.BlamesLink

variable {link : Link} {document : Document} {disk : Disk}
variable {answers : Url → Except WebError String} {base : Option FilePath}

theorem LinkKind.fetch_cause (kind : LinkKind) (disk : Disk)
    (answers : Url → Except WebError String) (reason : LinkError) :
    kind.fetch disk (.answering answers) ≠ .error (.link reason) := by
  cases kind with
  | file path =>
      simp only [fetch]
      cases disk.readText path with
      | error other => simp [Except.mapError]
      | ok html => simp [Except.mapError]
  | foreignFile bytes => simp [fetch]
  | remote url =>
      simp only [fetch, Web.answering]
      cases answers url with
      | error other => cases other <;> simp [Except.mapError, WebError.cause]
      | ok html => simp [Except.mapError]

theorem Link.fetch_of_leads {kind : LinkKind} {error : FetchError}
    (leads : link.kind base = .ok kind)
    (failed : link.fetch disk (.answering answers) base = .error error) : ¬ error.BlamesLink := by
  rintro ⟨reason, blamed⟩
  simp only [Link.fetch, fetchCause, leads] at failed
  cases fetched : kind.fetch disk (.answering answers) with
  | error cause =>
      rw [fetched] at failed
      cases failed
      exact kind.fetch_cause disk answers reason (blamed ▸ fetched)
  | ok html =>
      rw [fetched] at failed
      cases failed

namespace Engine

variable {Page : Type} {setup : Setup Page} {engine : Engine Page} {error : EngineError}
variable {online : Nat → Url → Except WebError String} {argument : Option String}

/-- A setup that fetches files from the disk and anything else from the web, which may change its
answers. -/
def fetching (setup : Setup Page) (online : Nat → Url → Except WebError String) : Setup Page :=
  { setup with
    fetch := fun number disk link base =>
      (link.fetch disk (.answering (online number)) base).map fun html => ⟨link, html⟩ }

theorem load_of_leads {failure : FetchError} (leads : link.Leads)
    (failed : (engine.load (fetching setup online) document link).2 = .error failure) :
    ¬ failure.BlamesLink := by
  obtain ⟨kind, known⟩ := leads document.directory?
  simp only [load, fetching] at failed
  cases fetched : link.fetch engine.workspace.disk (.answering (online engine.fetches))
      document.directory? with
  | error reason =>
      rw [fetched] at failed
      cases failed
      exact Link.fetch_of_leads known fetched
  | ok html =>
      rw [fetched] at failed
      cases failed

theorem blames_fetch {failure : FetchError} :
    (EngineError.fetch failure).BlamesLink ↔ failure.BlamesLink := by
  simp [EngineError.BlamesLink]

theorem deliver_blames {value : Json}
    (failed : (engine.deliver setup document value).2 = .error error) : ¬ error.BlamesLink := by
  rintro ⟨failure, rfl, _⟩
  simp only [deliver] at failed
  split at failed
  · cases failed
  · split at failed <;> cases failed

theorem runOnce_of_leads (leads : link.Leads)
    (failed : (engine.runOnce (fetching setup online) document link).2 = .error error) :
    ¬ error.BlamesLink := by
  simp only [runOnce] at failed
  rcases loads : engine.load (fetching setup online) document link with
    ⟨loaded, reason | ⟨content, page⟩⟩
  · rw [loads] at failed
    cases failed
    rw [blames_fetch]
    exact load_of_leads leads (congrArg Prod.snd loads)
  · simp only [loads] at failed
    split at failed
    · exact deliver_blames failed
    · cases failed
      simp [EngineError.BlamesLink]
    · cases failed
      simp [EngineError.BlamesLink]

theorem prepare_link {after : Engine Page} {used : Link}
    (prepared : engine.prepare setup (some link) = (after, .ok (document, used))) :
    used = link := by
  obtain ⟨focused, selector⟩ := prepare_document prepared
  rw [prepare_focused focused selector] at prepared
  cases prepared
  rfl

theorem runSelector_of_leads (leads : link.Leads)
    (failed : (engine.runSelector (fetching setup online) (some link)).2 = .error error) :
    ¬ error.BlamesLink := by
  simp only [runSelector] at failed
  split at failed
  · cases failed
    simp [EngineError.BlamesLink]
  · rcases prepares : engine.prepare (fetching setup online) (some link) with
      ⟨prepared, skipped | ⟨document, used⟩⟩
    · rw [prepares] at failed
      cases failed
    · obtain rfl := prepare_link prepares
      simp only [prepares] at failed
      rcases runs : (prepared.enter .running).runOnce (fetching setup online) document used with
        ⟨after, reason | output⟩
      · rw [runs] at failed
        cases failed
        exact runOnce_of_leads leads (congrArg Prod.snd runs)
      · rw [runs] at failed
        cases failed

theorem openWatch_of_leads (leads : link.Leads)
    (failed : (engine.openWatch (fetching setup online) (some link)).2 = .error error) :
    ¬ error.BlamesLink := by
  simp only [openWatch] at failed
  split at failed
  · cases failed
    simp [EngineError.BlamesLink]
  · rcases prepares : engine.stopWatch.1.prepare (fetching setup online) (some link) with
      ⟨prepared, skipped | ⟨document, used⟩⟩
    · rw [prepares] at failed
      cases failed
    · obtain rfl := prepare_link prepares
      simp only [prepares] at failed
      rcases loads : prepared.load (fetching setup online) document used with
        ⟨loaded, reason | ⟨content, page⟩⟩
      · rw [loads] at failed
        cases failed
        rw [blames_fetch]
        exact load_of_leads leads (congrArg Prod.snd loads)
      · simp only [loads] at failed
        split at failed
        · cases failed
          simp [EngineError.BlamesLink]
        · cases failed

theorem startWatch_of_leads (leads : link.Leads)
    (failed : (engine.startWatch (fetching setup online) (some link)).2 = .error error) :
    ¬ error.BlamesLink := by
  simp only [startWatch] at failed
  rcases opens : engine.openWatch (fetching setup online) (some link) with
    ⟨after, reason | skipped | opened⟩
  · rw [opens] at failed
    cases failed
    exact openWatch_of_leads leads (congrArg Prod.snd opens)
  · rw [opens] at failed
    cases failed
  · rw [opens] at failed
    cases failed

theorem argumentLink?_leads (named : argumentLink? argument = .ok (some link)) :
    ∃ kind, link.kind none = .ok kind := by
  simp only [argumentLink?] at named
  split at named
  · cases named
  · split at named
    · cases named
    · split at named
      · rename_i kind leads
        cases named
        exact ⟨kind, leads⟩
      · cases named

theorem failed_of_map {α β : Type} {view : α → β} {result : Except EngineError α}
    (failed : result.map view = .error error) : result = .error error := by
  cases result with
  | error reason =>
      cases failed
      rfl
  | ok answer => cases failed

theorem execute_of_leads (named : argumentLink? argument = .ok (some link))
    (leads : link.Leads) (command : Command)
    (failed : (engine.execute (fetching setup online) command argument).2 = .error error) :
    ¬ error.BlamesLink := by
  rw [execute_call _ engine command named] at failed
  cases command with
  | runSelector => exact runSelector_of_leads leads (failed_of_map failed)
  | startWatch => exact startWatch_of_leads leads (failed_of_map failed)
  | stopWatch => cases failed

/-- From a directory a link leads nowhere, or to the web, if and only if it does so without one, for
the same reason and to the same URL; the path of a file is followed from the directory if it is
relative and the link spells no URL.  So the link that a command's argument names is never to blame
for a fetch that fails, whatever document it is fetched for. -/
theorem admitted_leads (link : Link) (directory : FilePath) :
    ((∀ reason, link.kind none = .error reason ↔ link.kind (some directory) = .error reason) ∧
      (∀ url, link.kind none = .ok (.remote url) ↔
        link.kind (some directory) = .ok (.remote url)) ∧
      (∀ bytes, link.kind none = .ok (.foreignFile bytes) ↔
        link.kind (some directory) = .ok (.foreignFile bytes)) ∧
      ∀ path, link.kind none = .ok (.file path) →
        link.kind (some directory) =
          .ok (.file (if link.isUrl || path.isAbsolute then path else directory.join path))) ∧
    ∀ argument, argumentLink? argument = .ok (some link) →
      (∀ (disk : Disk) (answers : Url → Except WebError String) (base : Option FilePath) error,
        link.fetch disk (.answering answers) base = .error error → ¬ error.BlamesLink) ∧
      ∀ (setup : Setup Page) (online : Nat → Url → Except WebError String) (engine : Engine Page)
        (command : Command) error,
        (engine.execute (fetching setup online) command argument).2 = .error error →
          ¬ error.BlamesLink := by
  constructor
  · refine ⟨fun reason => Link.kind_eq_iff (by simp), fun url => Link.kind_eq_iff (by simp),
      fun bytes => Link.kind_eq_iff (by simp), fun path file => ?_⟩
    rw [Link.kind_some, file, Except.map, LinkKind.under]
  · intro argument named
    obtain ⟨kind, known⟩ := argumentLink?_leads named
    have leads : link.Leads := Link.leads_of_kind known
    refine ⟨fun disk answers base error failed => ?_,
      fun setup online engine command error failed => execute_of_leads named leads command failed⟩
    obtain ⟨other, there⟩ := leads base
    exact Link.fetch_of_leads there failed

/-- The page of an argument that is not there is looked for beside the document. -/
theorem absent_page_admitted :
    let link := Link.bare "page.html"
    let engine := (new (.onDisk linkedDisk)).performAll linkedRun
    let setup := fetching quietSetup fun _ _ => .error (.status 404)
    let failure : FetchError := ⟨"page.html", .io .notFound⟩
    link.kind none = .ok (.file (.ofText "page.html")) ∧
      link.kind (some (.ofText "/d")) = .ok (.file (.ofText "/d/page.html")) ∧
      argumentLink? (some " page.html ") = .ok (some link) ∧
      (engine.execute setup .runSelector (some " page.html ")).2 = .error (.fetch failure) ∧
      ¬ (EngineError.fetch failure).BlamesLink := by
  intro link engine setup failure
  have known : link.kind none = .ok (.file (.ofText "page.html")) := by decide +kernel
  have named : argumentLink? (some " page.html ") = .ok (some link) := by decide +kernel
  have failed : (engine.execute setup .runSelector (some " page.html ")).2 =
      .error (.fetch failure) := by
    decide +kernel
  obtain ⟨⟨_, _, _, followed⟩, blameless⟩ := admitted_leads link (.ofText "/d")
  refine ⟨known, ?_, named, failed, (blameless _ named).2 _ _ engine _ _ failed⟩
  rw [followed _ known]
  decide +kernel

end Engine

end LiveSelector
