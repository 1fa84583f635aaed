import LiveSelector.Proofs.Engine.Asked
import LiveSelector.Proofs.Engine.Hosted
import LiveSelector.Proofs.Link.Tagged
import LiveSelector.Proofs.Session.Tickets

namespace LiveSelector

/-! A code action and a pick.  A command with the target of a tagged link as its argument does what
the command without an argument does if the user picks that link: the two come by their link in
different ways, but only its label tells the links apart, and a label goes no further than into
reports and into the link of a watch. -/

variable {Page : Type} {setup : Setup Page} {engine : Engine Page} {document : Document}
variable {link one other : Link} {view : Link → Link}

def Link.untagged (link : Link) : Link :=
  .bare link.target

/-- A report with the label of its link left out. -/
def WatchReport.untagged : WatchReport → WatchReport
  | .started document link output initial => .started document link.untagged output initial
  | .skipped reason => .skipped reason

def CommandOutcome.untagged : CommandOutcome → CommandOutcome
  | .watch report => .watch report.untagged
  | outcome => outcome

def FetchedContent.viewed (view : Link → Link) (content : FetchedContent) : FetchedContent :=
  { content with link := view content.link }

theorem FetchedContent.viewed_eq {first second : FetchedContent}
    (seen : first.viewed view = second.viewed view) :
    view first.link = view second.link ∧ first.html = second.html := by
  simpa [FetchedContent.viewed] using seen

/-- A fetcher that answers alike for links of one target, as far as the view of the link that it
hands back goes. -/
def Setup.ByTarget (view : Link → Link) (setup : Setup Page) : Prop :=
  ∀ number disk one other base, one.target = other.target →
    (setup.fetch number disk one base).map (·.viewed view) =
      (setup.fetch number disk other base).map (·.viewed view)

namespace Engine

/-- An engine with a view of the link of its watch in that link's place. -/
def viewed (view : Link → Link) (engine : Engine Page) : Engine Page :=
  { engine with
    session :=
      { engine.session with
        watch := engine.session.watch.map fun watch => { watch with link := view watch.link } } }

theorem viewed_id (engine : Engine Page) : engine.viewed id = engine := by
  simp [viewed]

theorem prepare_focused (focused : engine.workspace.activeDocument? = some document)
    (selector : document.languageId = setup.config.languageId) (link : Link) :
    engine.prepare setup (some link) = (engine, .ok (document, link)) := by
  simp [prepare, focused, selector]

theorem load_target (engine : Engine Page) (document : Document) (byTarget : setup.ByTarget view)
    (same : one.target = other.target) :
    (∃ after reason, engine.load setup document one = (after, .error reason) ∧
        engine.load setup document other = (after, .error reason)) ∨
      ∃ after first second page, engine.load setup document one = (after, .ok (first, page)) ∧
        engine.load setup document other = (after, .ok (second, page)) ∧
        first.viewed view = second.viewed view := by
  have alike := byTarget engine.fetches engine.workspace.disk one other document.directory? same
  simp only [load]
  cases former : setup.fetch engine.fetches engine.workspace.disk one document.directory? with
  | error reason =>
      rw [former] at alike
      cases latter : setup.fetch engine.fetches engine.workspace.disk other document.directory? with
      | error again =>
          rw [latter] at alike
          cases alike
          exact .inl ⟨_, reason, rfl, rfl⟩
      | ok second =>
          rw [latter] at alike
          cases alike
  | ok first =>
      rw [former] at alike
      cases latter : setup.fetch engine.fetches engine.workspace.disk other document.directory? with
      | error again =>
          rw [latter] at alike
          cases alike
      | ok second =>
          rw [latter] at alike
          have seen : first.viewed view = second.viewed view := Except.ok.inj alike
          obtain ⟨_, html⟩ := FetchedContent.viewed_eq seen
          refine .inr ⟨_, first, second, setup.selector.load second.html, ?_, rfl, seen⟩
          rw [← html]

theorem runOnce_target (byTarget : setup.ByTarget view) (same : one.target = other.target) :
    engine.runOnce setup document one = engine.runOnce setup document other := by
  simp only [runOnce]
  obtain ⟨after, reason, former, latter⟩ | ⟨after, first, second, page, former, latter, _⟩ :=
    load_target engine document byTarget same
  · rw [former, latter]
  · rw [former, latter]

theorem runSelector_target (byTarget : setup.ByTarget view) (same : one.target = other.target)
    (focused : engine.workspace.activeDocument? = some document)
    (selector : document.languageId = setup.config.languageId) :
    engine.runSelector setup (some one) = engine.runSelector setup (some other) := by
  simp only [runSelector, prepare_focused focused selector, runOnce_target byTarget same]

theorem completeEvaluation_viewed (ticket : Ticket) :
    (engine.viewed view).completeEvaluation setup ticket =
      ((engine.completeEvaluation setup ticket).1.viewed view,
        (engine.completeEvaluation setup ticket).2) := by
  have checks : (engine.viewed view).session.checkTicket ticket =
      (engine.session.checkTicket ticket).map fun watch =>
        { watch with link := view watch.link } := by
    simp only [viewed, Session.checkTicket]
    cases engine.session.watch with
    | none => rfl
    | some watch =>
        simp only [Option.map_some]
        split
        · rfl
        · split <;> rfl
  cases checked : engine.session.checkTicket ticket with
  | error reason =>
      rw [checked] at checks
      rw [completeEvaluation_refused checked, completeEvaluation_refused checks]
  | ok watch =>
      rw [checked] at checks
      rw [completeEvaluation_effect checked, completeEvaluation_effect checks]
      rfl

theorem evaluateFirst_viewed (setup : Setup Page) (engine : Engine Page) (view : Link → Link) :
    (engine.viewed view).evaluateFirst setup =
      ((engine.evaluateFirst setup).1.viewed view, (engine.evaluateFirst setup).2) := by
  have begun : (engine.viewed view).beginEvaluation 0 =
      ((engine.beginEvaluation 0).1.viewed view, (engine.beginEvaluation 0).2) := by
    simp only [beginEvaluation, viewed, Session.issueTicket]
    cases installed : engine.session.watch with
    | none => simp [installed]
    | some watch => simp
  simp only [evaluateFirst, begun]
  rcases engine.beginEvaluation 0 with ⟨issued, none | ticket⟩
  · rfl
  · exact completeEvaluation_viewed ticket

/-- Whether a watch is opened is a matter of its link's target alone; watches that are opened with
links of one target differ in their link alone. -/
theorem openWatch_target (byTarget : setup.ByTarget view) (same : one.target = other.target)
    (focused : engine.workspace.activeDocument? = some document)
    (selector : document.languageId = setup.config.languageId) :
    (∃ after answer, (∀ opened, answer ≠ .ok (.ok opened)) ∧
        engine.openWatch setup (some one) = (after, answer) ∧
        engine.openWatch setup (some other) = (after, answer)) ∨
      ∃ first second output,
        engine.openWatch setup (some one) = (first, .ok (.ok ⟨document.id, one, output⟩)) ∧
        engine.openWatch setup (some other) = (second, .ok (.ok ⟨document.id, other, output⟩)) ∧
        first.viewed view = second.viewed view := by
  simp only [openWatch]
  split
  · exact .inl ⟨_, _, by simp, rfl, rfl⟩
  · have still : engine.stopWatch.1.workspace.activeDocument? = some document := by
      rw [stopWatch_workspace]
      exact focused
    generalize engine.stopWatch.1 = idle at still ⊢
    simp only [prepare_focused still selector]
    obtain ⟨after, reason, former, latter⟩ |
        ⟨loaded, first, second, page, former, latter, seen⟩ :=
      load_target idle document byTarget same
    · rw [former, latter]
      exact .inl ⟨_, _, by simp, rfl, rfl⟩
    · rw [former, latter]
      simp only
      rcases loaded.openOutput setup document with ⟨opened, reason | output⟩
      · exact .inl ⟨_, _, by simp, rfl, rfl⟩
      · obtain ⟨link, html⟩ := FetchedContent.viewed_eq seen
        refine .inr ⟨_, _, output, rfl, rfl, ?_⟩
        simp only [viewed, installWatch, enter, Session.install, Option.map_some, link, html]

theorem startWatch_target (byTarget : setup.ByTarget view) (same : one.target = other.target)
    (focused : engine.workspace.activeDocument? = some document)
    (selector : document.languageId = setup.config.languageId) :
    (engine.startWatch setup (some one)).1.viewed view =
        (engine.startWatch setup (some other)).1.viewed view ∧
      (engine.startWatch setup (some one)).2.map WatchReport.untagged =
        (engine.startWatch setup (some other)).2.map WatchReport.untagged := by
  simp only [startWatch]
  rcases openWatch_target byTarget same focused selector
    with ⟨after, answer, unopened, former, latter⟩ | ⟨first, second, output, former, latter, seen⟩
  · rw [former, latter]
    rcases answer with reason | reason | opened
    · exact ⟨rfl, rfl⟩
    · exact ⟨rfl, rfl⟩
    · exact absurd rfl (unopened opened)
  · rw [former, latter]
    have begun := evaluateFirst_viewed setup first view
    rw [seen, evaluateFirst_viewed] at begun
    obtain ⟨engines, reports⟩ := Prod.mk.inj begun
    refine ⟨engines.symm, ?_⟩
    simp only [Except.map, WatchReport.untagged, Link.untagged, same, reports]

/-- A call that a command makes with a link, if it has one. -/
def call (setup : Setup Page) (engine : Engine Page) (command : Command) (link : Option Link) :
    Engine Page × Except EngineError CommandOutcome :=
  match command with
  | .runSelector =>
    ((engine.runSelector setup link).1, (engine.runSelector setup link).2.map .run)
  | .startWatch =>
    ((engine.startWatch setup link).1, (engine.startWatch setup link).2.map .watch)
  | .stopWatch => (engine.stopWatch.1, .ok (.stopped engine.stopWatch.2))

theorem execute_call (setup : Setup Page) (engine : Engine Page) {argument : Option String}
    {given : Option Link} (command : Command) (named : argumentLink? argument = .ok given) :
    engine.execute setup command argument = engine.call setup command given := by
  simp only [execute, named]
  cases command <;> rfl

theorem argumentLink?_target {text : List Char} {base : Option FilePath} {kind : LinkKind}
    (tagged : Link.tagged? text = some link) (leads : link.kind base = .ok kind) :
    argumentLink? (some link.target) = .ok (some (.bare link.target)) := by
  obtain ⟨trimmed, nonempty⟩ := Link.tagged?_target tagged
  obtain ⟨found, known⟩ := Link.kind_bare leads
  simp only [argumentLink?, Option.map_some, trimmed, if_neg nonempty, known]

theorem stopWatch_asked (prompt : Option Prompt) :
    (engine.asked prompt).stopWatch.1 = engine.stopWatch.1.asked prompt := by
  have prompts : engine.stopWatch.1.journal.prompts = engine.journal.prompts := by
    simp only [stopWatch]
    split
    · rfl
    · rfl
  have retold := stopWatch_retold engine (engine.journal.prompts ++ prompt.toList)
  rw [← prompts] at retold
  rw [asked, ← prompts]
  exact congrArg Prod.fst retold

section Picked

variable {rank : Nat} {prompt : Prompt}

/-- A setup whose user answers every question alike. -/
def picking (setup : Setup Page) (rank : Nat) : Setup Page :=
  { setup with pick := fun _ _ => some rank }

theorem prepare_picked (focused : engine.workspace.activeDocument? = some document)
    (selector : document.languageId = setup.config.languageId)
    (chosen : Link.choose document.text.toList setup.config.linkScanLimit (fun _ => some rank) =
      (.resolved link, some prompt)) :
    engine.prepare (picking setup rank) none =
      (engine.asked (some prompt), .ok (document, link)) := by
  simp [prepare, picking, focused, selector, chosen]

theorem runSelector_picked (ready : engine.session.state = .ready)
    (focused : engine.workspace.activeDocument? = some document)
    (selector : document.languageId = setup.config.languageId)
    (chosen : Link.choose document.text.toList setup.config.linkScanLimit (fun _ => some rank) =
      (.resolved link, some prompt)) :
    engine.runSelector (picking setup rank) none =
      (engine.asked (some prompt)).runSelector setup (some link) := by
  have still : (engine.asked (some prompt)).workspace.activeDocument? = some document := focused
  have same : (engine.asked (some prompt)).session.state = .ready := ready
  simp only [runSelector, ready, same, prepare_picked focused selector chosen,
    prepare_focused still selector]
  rfl

theorem startWatch_picked (ready : engine.session.state = .ready)
    (focused : engine.workspace.activeDocument? = some document)
    (selector : document.languageId = setup.config.languageId)
    (chosen : Link.choose document.text.toList setup.config.linkScanLimit (fun _ => some rank) =
      (.resolved link, some prompt)) :
    engine.startWatch (picking setup rank) none =
      (engine.asked (some prompt)).startWatch setup (some link) := by
  have opens : engine.openWatch (picking setup rank) none =
      (engine.asked (some prompt)).openWatch setup (some link) := by
    have same : (engine.asked (some prompt)).session.state = .ready := ready
    have left : engine.stopWatch.1.workspace.activeDocument? = some document := by
      rw [stopWatch_workspace]
      exact focused
    have still : (engine.stopWatch.1.asked (some prompt)).workspace.activeDocument? =
        some document := left
    simp only [openWatch, ready, same, stopWatch_asked, prepare_picked left selector chosen,
      prepare_focused still selector]
    rfl
  simp only [startWatch, opens]
  rfl

theorem call_picked (ready : engine.session.state = .ready)
    (focused : engine.workspace.activeDocument? = some document)
    (selector : document.languageId = setup.config.languageId)
    (chosen : Link.choose document.text.toList setup.config.linkScanLimit (fun _ => some rank) =
      (.resolved link, some prompt)) {command : Command} (asks : command ≠ .stopWatch) :
    engine.call (picking setup rank) command none =
      (engine.asked (some prompt)).call setup command (some link) := by
  cases command with
  | runSelector => simp only [call, runSelector_picked ready focused selector chosen]
  | startWatch => simp only [call, startWatch_picked ready focused selector chosen]
  | stopWatch => exact absurd rfl asks

end Picked

theorem call_retold (setup : Setup Page) (engine : Engine Page) (link : Link)
    (prompts : List Prompt) (command : Command) :
    (engine.retold prompts).call setup command (some link) =
      ((engine.call setup command (some link)).1.retold prompts,
        (engine.call setup command (some link)).2) := by
  cases command with
  | runSelector => simp only [call, runSelector_retold]
  | startWatch => simp only [call, startWatch_retold]
  | stopWatch => simp only [call, stopWatch_retold]

theorem call_target (one other : Link) (byTarget : setup.ByTarget view)
    (same : one.target = other.target) (focused : engine.workspace.activeDocument? = some document)
    (selector : document.languageId = setup.config.languageId) (command : Command) :
    (engine.call setup command (some one)).1.viewed view =
        (engine.call setup command (some other)).1.viewed view ∧
      (engine.call setup command (some one)).2.map CommandOutcome.untagged =
        (engine.call setup command (some other)).2.map CommandOutcome.untagged := by
  cases command with
  | runSelector =>
      have alike := runSelector_target byTarget same
        focused selector
      rw [call, call, alike]
      exact ⟨rfl, rfl⟩
  | startWatch =>
      obtain ⟨engines, answers⟩ :=
        startWatch_target byTarget same focused selector
      refine ⟨engines, ?_⟩
      have untag (answer : Except EngineError WatchReport) :
          (answer.map CommandOutcome.watch).map CommandOutcome.untagged =
            (answer.map WatchReport.untagged).map .watch := by
        cases answer <;> rfl
      simp only [call, untag, answers]
  | stopWatch => exact ⟨rfl, rfl⟩

/-- In a ready engine whose document in focus is a selector with several tagged links, none of them
left out of a scan, a code action of a line with one of them, if it leads anywhere, does what the
call without a link does if the user picks the link of that line.  It leaves the same engine, up to
the labels of links if the fetcher hands the link it was given back, and altogether if the fetcher
does not look at labels; and its answer is the same up to the label.  It asks nothing, where the
other way asks once. -/
theorem codeAction_does_pick {rank line : Nat} {base : Option FilePath} {kind : LinkKind}
    (ready : engine.session.state = .ready)
    (focused : engine.workspace.activeDocument? = some document)
    (selector : document.languageId = setup.config.languageId)
    (several : 2 ≤ document.taggedLines.length)
    (few : document.taggedLines.length ≤ setup.config.linkScanLimit)
    (ranked : document.taggedLines[rank]? = some line)
    (tagged : document.taggedAt? line = some link) (leads : link.kind base = .ok kind)
    (byTarget : setup.ByTarget Link.untagged) :
    engine.codeActions setup document.id line = CodeAction.forLink link ∧
      ∀ action ∈ engine.codeActions setup document.id line,
        let offered := engine.execute setup action.command (some action.argument)
        let picked := engine.call (picking setup rank) action.command none
        (offered.1.retold []).viewed Link.untagged = (picked.1.retold []).viewed Link.untagged ∧
          ((∀ number disk one other base, one.target = other.target →
              setup.fetch number disk one base = setup.fetch number disk other base) →
            offered.1.retold [] = picked.1.retold []) ∧
          offered.2.map CommandOutcome.untagged = picked.2.map CommandOutcome.untagged ∧
          offered.1.journal.prompts = engine.journal.prompts ∧
          ∃ prompt, picked.1.journal.prompts = engine.journal.prompts ++ [prompt] := by
  have offers : engine.codeActions setup document.id line = CodeAction.forLink link := by
    have found : (document.line? line).bind Link.tagged? = some link := tagged
    simp only [codeActions, Workspace.activeDocument?_open focused, Document.codeActions, selector,
      if_true, found]
  refine ⟨offers, fun action member => ?_⟩
  rw [offers] at member
  have forLink : action.argument = link.target ∧ action.command ≠ .stopWatch := by
    simp only [CodeAction.forLink, List.mem_cons, List.not_mem_nil, or_false] at member
    rcases member with rfl | rfl
    · exact ⟨rfl, by simp⟩
    · exact ⟨rfl, by simp⟩
  obtain ⟨named, asks⟩ := forLink
  obtain ⟨chars, _, isTagged⟩ := Option.bind_eq_some_iff.mp tagged
  obtain ⟨prompt, chosen⟩ :=
    Document.choose_ranked (fun _ => some rank) several few ranked tagged fun _ => rfl
  have offered := execute_call setup engine action.command (argumentLink?_target isTagged leads)
  have picked : engine.call (picking setup rank) action.command none =
      ((engine.call setup action.command (some link)).1.retold
          (engine.journal.prompts ++ [prompt]),
        (engine.call setup action.command (some link)).2) :=
    (call_picked ready focused selector chosen asks).trans (call_retold ..)
  have unasked : (engine.call setup action.command (some (.bare link.target))).1.journal.prompts =
      engine.journal.prompts := by
    have again :=
      call_retold setup engine (.bare link.target) engine.journal.prompts action.command
    rw [retold_self] at again
    exact congrArg (fun after => after.1.journal.prompts) again
  have alike {view : Link → Link} (byTarget : setup.ByTarget view) :=
    call_target (.bare link.target) link byTarget rfl focused selector action.command
  simp only [named, offered, picked, retold_retold, unasked]
  refine ⟨?_, fun exactly => ?_, (alike byTarget).2, trivial, prompt, rfl⟩
  · exact congrArg (fun after => after.retold []) (alike byTarget).1
  · have byAll : setup.ByTarget id := fun number disk one other base same =>
      congrArg (Except.map (·.viewed id)) (exactly number disk one other base same)
    have same := (alike byAll).1
    rw [viewed_id, viewed_id] at same
    rw [same]

/-- A disk with a selector that has two tagged links. -/
def linkedDisk : Disk :=
  ⟨[], [([['s', '.', 't', 'e', 'm', 'm', 'e']], .file (.text "<a> x.html\n<b> y.html"))]⟩

def linkedRun : List (Setup Unit × Operation) :=
  [.host (.openPath (.ofText "s.temme")), .host (.setActive ⟨"s.temme"⟩)].map (quietSetup, ·)

/-- The actions of the second line do what picking the second of two links does. -/
theorem second_action_does_pick :
    let engine := (new (.onDisk linkedDisk)).performAll linkedRun
    let link : Link := ⟨some "<b>", "y.html"⟩
    engine.codeActions quietSetup ⟨"s.temme"⟩ 1 = CodeAction.forLink link ∧
      ∀ action ∈ engine.codeActions quietSetup ⟨"s.temme"⟩ 1,
        let offered := engine.execute quietSetup action.command (some action.argument)
        let picked := engine.call (picking quietSetup 1) action.command none
        (offered.1.retold []).viewed Link.untagged = (picked.1.retold []).viewed Link.untagged ∧
          offered.2.map CommandOutcome.untagged = picked.2.map CommandOutcome.untagged := by
  intro engine link
  let document : Document :=
    ⟨⟨"s.temme"⟩, some (.ofText "s.temme"), "temme", "<a> x.html\n<b> y.html"⟩
  have byTarget : quietSetup.ByTarget Link.untagged := by
    intro number disk one other base same
    simp [quietSetup, Except.map, FetchedContent.viewed, Link.untagged, same]
  have leads : link.kind none = .ok (.file (.ofText "y.html")) := by
    have trimmed : Text.trim "y.html" = "y.html" := by decide +kernel
    have path : Url.parse? "y.html" = none := by decide +kernel
    simp [Link.kind, Link.fromBase, link, trimmed, path]
  have focused : engine.workspace.activeDocument? = some document := by decide +kernel
  have ranked : document.taggedLines[1]? = some 1 := by decide +kernel
  have tagged : document.taggedAt? 1 = some link := by decide +kernel
  obtain ⟨offers, alike⟩ := codeAction_does_pick rfl focused rfl (by decide +kernel)
    (by decide +kernel) ranked tagged leads byTarget
  refine ⟨offers, fun action member => ?_⟩
  obtain ⟨engines, _, answers, _⟩ := alike action member
  exact ⟨engines, answers⟩

end Engine

end LiveSelector
