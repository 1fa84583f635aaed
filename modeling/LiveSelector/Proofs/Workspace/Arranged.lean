import LiveSelector.Proofs.Workspace.Texts

namespace LiveSelector.Workspace

/-! What a workspace looks like after any work of a host on it: what is visible is open, what has
the focus is visible, every buffer goes by the path of its file and is in the language that was
registered last for it, and its text is the one it was given last. -/

variable {workspace before after : Workspace} {document other : DocumentId} {path : FilePath}
variable {action : HostAction} {actions : List HostAction} {disk : Disk} {rules : List LanguageRule}
variable {rule : LanguageRule} {extension : String}

/-- Open documents are visible at most once, closed ones not at all, and the focus is on one that is
visible. -/
structure Arranged (workspace : Workspace) : Prop where
  once : workspace.visible.Nodup
  opened : ∀ document ∈ workspace.visible, workspace.isOpen document = true
  focused : ∀ document, workspace.active = some document →
    workspace.isOpen document = true ∧ document ∈ workspace.visible

theorem arranged_onDisk (disk : Disk) : Arranged (onDisk disk) where
  once := List.nodup_nil
  opened := fun _ member => by cases member
  focused := fun _ focus => by cases focus

theorem Arranged.of_opened (arranged : Arranged before) (visible : after.visible = before.visible)
    (active : after.active = before.active)
    (still : ∀ document, before.isOpen document = true → after.isOpen document = true) :
    Arranged after where
  once := visible ▸ arranged.once
  opened := by
    intro document member
    rw [visible] at member
    exact still document (arranged.opened document member)
  focused := by
    intro document focus
    rw [active] at focus
    obtain ⟨opened, shown⟩ := arranged.focused document focus
    exact ⟨still document opened, visible ▸ shown⟩

theorem mem_addVisible {visible : List DocumentId} :
    other ∈ addVisible visible document ↔ other ∈ visible ∨ other = document := by
  simp only [addVisible]
  split
  · rename_i shown
    have there : document ∈ visible := by simpa using shown
    constructor
    · exact .inl
    · rintro (member | rfl)
      · exact member
      · exact there
  · simp

theorem nodup_addVisible {visible : List DocumentId} (once : visible.Nodup) :
    (addVisible visible document).Nodup := by
  simp only [addVisible]
  split
  · exact once
  · rename_i hidden
    have absent : document ∉ visible := by simpa using hidden
    rw [List.nodup_append]
    refine ⟨once, by simp, fun other member same last => ?_⟩
    rw [List.mem_singleton.mp last]
    rintro rfl
    exact absent member

theorem Arranged.shown (arranged : Arranged workspace) (opened : workspace.isOpen document = true)
    {active : Option DocumentId} (focus : active = workspace.active ∨ active = some document) :
    Arranged { workspace with visible := addVisible workspace.visible document, active } where
  once := nodup_addVisible arranged.once
  opened := by
    intro other member
    rcases mem_addVisible.mp member with shown | rfl
    · exact arranged.opened other shown
    · exact opened
  focused := by
    intro other focused
    rcases focus with rfl | rfl
    · obtain ⟨still, shown⟩ := arranged.focused other focused
      exact ⟨still, mem_addVisible.mpr (.inl shown)⟩
    · cases focused
      exact ⟨opened, mem_addVisible.mpr (.inr rfl)⟩

theorem Arranged.withoutFocus (arranged : Arranged workspace) {buffers : Table Buffer}
    (still : ∀ other, other ≠ document → workspace.isOpen other = true →
      ({ workspace with buffers } : Workspace).isOpen other = true) :
    Arranged (({ workspace with buffers } : Workspace).withoutFocus document) where
  once := arranged.once.filter _
  opened := by
    intro other member
    obtain ⟨shown, different⟩ := List.mem_filter.mp member
    exact still other (of_decide_eq_true different) (arranged.opened other shown)
  focused := by
    intro other focus
    simp only [Workspace.withoutFocus] at focus ⊢
    split at focus
    · cases focus
    · rename_i elsewhere
      obtain ⟨opened, shown⟩ := arranged.focused other focus
      have different : other ≠ document := by
        rintro rfl
        exact elsewhere focus
      exact ⟨still other different opened, List.mem_filter.mpr ⟨shown, decide_eq_true different⟩⟩

theorem Arranged.setBuffer (arranged : Arranged workspace) (disk : Disk) (document : DocumentId)
    (buffer : Buffer) : Arranged (setBuffer { workspace with disk } document buffer) :=
  arranged.of_opened rfl rfl fun other opened => by
    rw [isOpen_setBuffer]
    exact Bool.or_eq_true_iff.mpr (.inr opened)

theorem arranged_host (arranged : Arranged workspace) (action : HostAction) :
    Arranged (workspace.host action) := by
  have same : ∀ disk, Arranged { workspace with disk } :=
    fun disk => arranged.of_opened rfl rfl fun _ opened => opened
  cases action with
  | fresh => exact arranged_onDisk workspace.disk
  | register rule => exact arranged.of_opened rfl rfl fun _ opened => opened
  | disk disk => exact same disk
  | openPath path =>
      cases opened : workspace.isOpen path.documentId with
      | true =>
          simp only [host, (open_again opened).1]
          exact arranged
      | false =>
          obtain ⟨reason, _, refused⟩ | ⟨text, _, opening⟩ := openPath_closed opened
          · simp only [host, refused]
            exact arranged
          · simp only [host, opening]
            exact arranged.setBuffer workspace.disk _ _
  | openDocument path =>
      cases opened : workspace.isOpen path.documentId with
      | true =>
          simp only [host, (open_again opened).2]
          exact arranged
      | false =>
          obtain ⟨disk, ⟨_, reason, refused⟩ | ⟨_, text, _, opening⟩⟩ :=
            openDocument_closed opened
          · simp only [host, refused]
            exact same disk
          · simp only [host, opening]
            exact arranged.setBuffer disk _ _
  | setActive document =>
      simp only [host, setActive]
      cases opened : workspace.isOpen document with
      | true => exact arranged.shown opened (.inr rfl)
      | false => exact arranged
  | hide document => exact arranged.withoutFocus fun _ _ opened => opened
  | showBeside document =>
      simp only [host, showBeside]
      cases opened : workspace.isOpen document with
      | true => exact arranged.shown opened (.inl rfl)
      | false => exact arranged
  | edit document text =>
      cases found : workspace.buffer? document with
      | none =>
          simp only [host, edit, found]
          exact arranged
      | some buffer =>
          simp only [host, edit, found]
          exact arranged.setBuffer workspace.disk _ _
  | save document =>
      simp only [host, save]
      split
      · exact arranged
      · split
        · exact same _
        · exact same _
  | replaceAll document text =>
      simp only [host, replaceAll]
      split
      · exact arranged
      · split
        · exact arranged.setBuffer _ _ _
        · exact same _
  | close document =>
      simp only [host, close]
      split
      · apply arranged.withoutFocus
        intro other different opened
        have apart : document.text ≠ other.text := by
          cases document
          cases other
          simpa using Ne.symm different
        simpa only [isOpen, buffer?, Table.get?_erase, if_neg apart] using opened
      · exact arranged

theorem arranged_hostAll (arranged : Arranged workspace) (actions : List HostAction) :
    Arranged (workspace.hostAll actions) :=
  hostAll_induction arranged (fun _ action arranged => arranged_host arranged action) actions

/-- A new workspace on which rules have been registered one after the other. -/
def registered (disk : Disk) (rules : List LanguageRule) : Workspace :=
  (onDisk disk).hostAll (rules.map .register)

/-- The language that the last rule for an extension names, the rules of a new workspace coming
first; plain text if there is no rule for it. -/
inductive LastRegistered (rules : List LanguageRule) (extension : String) : String → Prop where
  | named {earlier later : List LanguageRule} {languageId : String}
      (whole : firstLanguages ++ rules = earlier ++ ⟨extension, languageId⟩ :: later)
      (last : ∀ rule ∈ later, rule.extension ≠ extension) :
      LastRegistered rules extension languageId
  | unnamed (others : ∀ rule ∈ firstLanguages ++ rules, rule.extension ≠ extension) :
      LastRegistered rules extension plainText

theorem LastRegistered.concat {languageId : String}
    (last : LastRegistered rules extension languageId) (other : rule.extension ≠ extension) :
    LastRegistered (rules ++ [rule]) extension languageId := by
  cases last with
  | named whole last =>
      refine .named (by rw [← List.append_assoc, whole, List.append_assoc]; rfl) ?_
      intro later member
      rcases List.mem_append.mp member with earlier | new
      · exact last later earlier
      · rw [List.mem_singleton.mp new]
        exact other
  | unnamed others =>
      refine .unnamed fun later member => ?_
      rw [← List.append_assoc] at member
      rcases List.mem_append.mp member with earlier | new
      · exact others later earlier
      · rw [List.mem_singleton.mp new]
        exact other

/-- A new rule for an extension is found in place of the old ones, and no other rule is lost. -/
theorem find?_withLanguage (languageId : String) :
    (workspace.withLanguage rule.extension languageId).languages.find?
        (fun other => other.extension = extension) =
      if rule.extension = extension then some ⟨rule.extension, languageId⟩
      else workspace.languages.find? (fun other => other.extension = extension) := by
  simp only [withLanguage, List.find?_append]
  split
  · rename_i same
    subst same
    have dropped : (workspace.languages.filter (·.extension ≠ rule.extension)).find?
        (fun other => other.extension = rule.extension) = none := by
      rw [List.find?_eq_none]
      intro other member
      simpa using (List.mem_filter.mp member).2
    rw [dropped]
    simp
  · rename_i different
    have kept : (workspace.languages.filter (·.extension ≠ rule.extension)).find?
        (fun other => other.extension = extension) =
          workspace.languages.find? (fun other => other.extension = extension) := by
      rw [List.find?_filter]
      congr 1
      funext other
      by_cases here : other.extension = extension
      · simp [here, Ne.symm different]
      · simp [here]
    rw [kept]
    simp [different]

/-- The rules of a new workspace are for different extensions, so that the first is the last. -/
theorem lastRegistered_first (extension : String) :
    LastRegistered [] extension
      (match firstLanguages.find? (·.extension = extension) with
      | some rule => rule.languageId
      | none => plainText) := by
  have once : (firstLanguages.map (·.extension)).Nodup := by decide
  split
  · rename_i rule found
    obtain ⟨named, earlier, later, whole, _⟩ := List.find?_eq_some_iff_append.mp found
    have same : rule.extension = extension := by simpa using named
    subst same
    rw [whole, List.map_append, List.map_cons] at once
    have alone := (List.nodup_cons.mp (List.nodup_append.mp once).2.1).1
    refine .named ((List.append_nil _).trans whole) fun other member again => ?_
    exact alone (List.mem_map.mpr ⟨other, member, again⟩)
  · rename_i unfound
    refine .unnamed fun rule member => ?_
    rw [List.append_nil] at member
    simpa using List.find?_eq_none.mp unfound rule member

/-- The rule that a workspace finds for a path is the one that was registered last. -/
theorem lastRegistered_languageOf (disk : Disk) (rules : List LanguageRule) (path : FilePath) :
    LastRegistered rules (String.ofList (path.extension?.getD []))
      ((registered disk rules).languageOf path) := by
  simp only [languageOf]
  generalize String.ofList (path.extension?.getD []) = extension
  induction rules using List.reverseRecOn with
  | nil => exact lastRegistered_first extension
  | append_singleton rules rule ih =>
      have last : registered disk (rules ++ [rule]) =
          (registered disk rules).withLanguage rule.extension rule.languageId := by
        rw [registered, List.map_append, List.map_singleton, hostAll_concat]
        rfl
      rw [last, find?_withLanguage]
      by_cases same : rule.extension = extension
      · rw [if_pos same]
        subst same
        have whole := (List.append_assoc firstLanguages rules [rule]).symm
        exact .named whole (by simp)
      · rw [if_neg same]
        exact ih.concat same

theorem registered_buffers (disk : Disk) (rules : List LanguageRule) :
    (registered disk rules).buffers = .empty := by
  induction rules using List.reverseRecOn with
  | nil => rfl
  | append_singleton rules rule ih =>
      rw [registered, List.map_append, List.map_singleton, hostAll_concat]
      exact ih

theorem registered_buffer? : (registered disk rules).buffer? document = none := by
  rw [buffer?, registered_buffers]
  rfl

theorem labelled_hostAll {known : FilePath → String → Prop} (labelled : Labelled known workspace)
    (current : ∀ path, known path (workspace.languageOf path))
    (kept : ∀ action ∈ actions, action.keepsRules = true) :
    Labelled known (workspace.hostAll actions) := by
  induction actions generalizing workspace with
  | nil => exact labelled
  | cons action rest ih =>
      have same : (workspace.host action).languages = workspace.languages :=
        host_languages (kept action (by simp))
      refine ih (labelled_host labelled current action) (fun path => ?_)
        fun later member => kept later (List.mem_cons_of_mem _ member)
      rw [languageOf_congr same]
      exact current path

/-- What is true of a workspace after actions of the host, once rules have been registered on it. -/
structure Orderly (disk : Disk) (rules : List LanguageRule) (actions : List HostAction) :
    Prop where
  arranged : Arranged ((registered disk rules).hostAll actions)
  keyed : ∀ document buffer,
    ((registered disk rules).hostAll actions).buffer? document = some buffer →
      document = buffer.path.documentId
  /-- A path without an extension counts as one with the empty extension. -/
  labelled : ∀ document buffer,
    ((registered disk rules).hostAll actions).buffer? document = some buffer →
      LastRegistered rules (String.ofList (buffer.path.extension?.getD [])) buffer.languageId
  texts : ∀ document text,
    ((registered disk rules).hostAll actions).text? document = some text ↔
      LastGiven (registered disk rules) actions document text
  reopened : ∀ path, ((registered disk rules).hostAll actions).isOpen path.documentId = true →
    ((registered disk rules).hostAll actions).openPath path =
        .ok ((registered disk rules).hostAll actions, path.documentId) ∧
      ((registered disk rules).hostAll actions).openDocument path =
        ((registered disk rules).hostAll actions, .ok path.documentId)

/-- A workspace stays in order under all actions of the host, refused ones and changes of the disk
by others included, as long as it is the same workspace under the same rules. -/
theorem orderly_after_actions (kept : ∀ action ∈ actions, action.keepsRules = true) :
    Orderly disk rules actions where
  arranged := arranged_hostAll (arranged_hostAll (arranged_onDisk disk) _) actions
  keyed := keyed_hostAll (keyed_hostAll (keyed_onDisk disk) _) actions
  labelled := by
    have initial : Labelled
        (fun path => LastRegistered rules (String.ofList (path.extension?.getD [])))
        (registered disk rules) := by
      intro document buffer found
      rw [registered_buffer?] at found
      contradiction
    exact labelled_hostAll initial (lastRegistered_languageOf disk rules) kept
  texts := by
    intro document text
    refine text?_hostAll (fun document => ?_) kept
    rw [text?, registered_buffer?, Option.map_none]
  reopened := fun _ opened => open_again opened

/-- A disk with a selector under an extension of its own. -/
def customDisk : Disk := ⟨[], [([['s', '.', 't', 'm']], .file (.text "h1"))]⟩

/-- The selector is edited, closed and opened again, and edited without being saved; a missing file
is asked for in vain, an output is made and replaced, and then the disk is lost. -/
def customActions : List HostAction :=
  [.openPath (.ofText "s.tm"), .setActive ⟨"s.tm"⟩, .edit ⟨"s.tm"⟩ "h2", .hide ⟨"s.tm"⟩,
    .close ⟨"s.tm"⟩, .openPath (.ofText "s.tm"), .setActive ⟨"s.tm"⟩, .edit ⟨"s.tm"⟩ "h3",
    .openPath (.ofText "t.tm"), .openDocument (.ofText "s.tm.json"), .showBeside ⟨"s.tm.json"⟩,
    .replaceAll ⟨"s.tm.json"⟩ "null", .openDocument (.ofText "s.tm"), .disk ⟨[], []⟩,
    .save ⟨"t.tm"⟩]

theorem orderly_after_custom_actions :
    (∀ action ∈ customActions, action.keepsRules = true) ∧
      Orderly customDisk [⟨"tm", "html"⟩, ⟨"tm", "temme"⟩] customActions ∧
      LastGiven (registered customDisk [⟨"tm", "html"⟩, ⟨"tm", "temme"⟩]) customActions ⟨"s.tm"⟩
        "h3" := by
  have kept : ∀ action ∈ customActions, action.keepsRules = true := by decide
  have orderly : Orderly customDisk [⟨"tm", "html"⟩, ⟨"tm", "temme"⟩] customActions :=
    orderly_after_actions kept
  exact ⟨kept, orderly, (orderly.texts ⟨"s.tm"⟩ "h3").mp (by decide +kernel)⟩

end LiveSelector.Workspace
