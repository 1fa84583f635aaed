import LiveSelector.Config.Layers
import LiveSelector.Proofs.Output.Artifact
import LiveSelector.Proofs.Output.Companion

namespace LiveSelector

/-! The selector is never its own output, as long as the suffix is not empty.  Overrides cannot make
the suffix empty, but a settings file can; then a run puts its result in the place of the selector. -/

theorem DocumentId.companion_ne {document : DocumentId} {suffix : String}
    (named : (FilePath.ofText document.text).NamesFile) (longer : suffix ≠ "") :
    document.companion suffix ≠ document := by
  intro same
  obtain ⟨front, name, ends⟩ := named
  apply ends.companion_ne longer
  apply FilePath.text_inj.mp
  rw [FilePath.text_ofText]
  exact congrArg DocumentId.text same

theorem Config.withOverrides_suffix {loaded : Config} (overrides : Overrides)
    (suffixed : loaded.outputSuffix ≠ "") : (loaded.withOverrides overrides).outputSuffix ≠ "" := by
  simp only [withOverrides]
  cases given : overrides.outputSuffix.filter fun suffix => suffix ≠ "" with
  | none => exact suffixed
  | some suffix => simpa using (Option.filter_eq_some_iff.mp given).2

namespace Engine

variable {Page : Type} {setup : Setup Page} {engine : Engine Page} {operation : Operation}
variable {suffix : String} {id : DocumentId}

theorem Placed.subject_namesFile (placed : Placed suffix engine)
    (subject : engine.subject? operation = some id) : (FilePath.ofText id.text).NamesFile := by
  have focused : engine.workspace.activeDocument?.map (·.id) = some id →
      (FilePath.ofText id.text).NamesFile := by
    intro focus
    obtain ⟨document, active, rfl⟩ := Option.map_eq_some_iff.mp focus
    exact placed.namesFile (Workspace.activeDocument?_open active)
  have watched : engine.watched? = some id → (FilePath.ofText id.text).NamesFile := by
    intro watching
    obtain ⟨watch, installed, rfl⟩ := Option.map_eq_some_iff.mp watching
    exact (placed.bound watch installed).2
  cases operation with
  | execute command argument =>
      cases command with
      | stopWatch => contradiction
      | _ => exact focused subject
  | runSelector link => exact focused subject
  | startWatch link => exact focused subject
  | handleEvent event => exact watched subject
  | handleEvents events => exact watched subject
  | completeEvaluation ticket => exact watched subject
  | _ => contradiction

/-- Under settings whose file gives a suffix, whatever the overrides, the document that an operation
runs or watches has an output that is another document, and the operation leaves the document's text
alone; its file stays too if the suffix is part of a name. -/
theorem selector_kept {disk : Disk} {run : List (Setup Page × Operation)} {loaded : Config}
    {overrides : Config.Overrides} (suffixed : loaded.outputSuffix ≠ "")
    (configured : ∀ call ∈ run, call.1.config = loaded.withOverrides overrides)
    (same : setup.config = loaded.withOverrides overrides) (own : operation.isHost = false)
    (subject : ((new (.onDisk disk)).performAll run).subject? operation = some id) :
    let before : Engine Page := (new (.onDisk disk)).performAll run
    let after := before.perform setup operation
    (∀ document, before.workspace.document? id = some document →
        (document.outputPath setup.config.outputSuffix).documentId ≠ id) ∧
      after.workspace.buffer? id = before.workspace.buffer? id ∧
      ('/' ∉ setup.config.outputSuffix.toList →
        after.workspace.disk.fileAt (.ofText id.text) =
          before.workspace.disk.fileAt (.ofText id.text)) := by
  intro before after
  have longer : setup.config.outputSuffix ≠ "" := by
    rw [same]
    exact Config.withOverrides_suffix overrides suffixed
  have placed : Placed setup.config.outputSuffix before := by
    rw [same]
    exact placed_performAll configured
  have named := placed.subject_namesFile subject
  have other : id.companion setup.config.outputSuffix ≠ id := DocumentId.companion_ne named longer
  have confined := (perform_tends placed own).confined placed.keyed
  have artifact : before.artifact? setup.config.outputSuffix operation =
      some (id.companion setup.config.outputSuffix) := by
    rw [artifact?, subject, Option.map_some]
  rw [artifact] at confined
  refine ⟨?_, ?_, ?_⟩
  · intro document found
    rw [placed.keyed.outputPath found]
    exact other
  · apply confined.buffers
    intro there
    exact other (Option.some.inj there)
  · intro plain
    obtain ⟨front, name, ends⟩ := named
    have elsewhere := Disk.placeOf_companion_ne before.workspace.disk ends plain longer
    have kept : after.workspace.disk.file? (before.workspace.disk.placeOf (.ofText id.text)) =
        before.workspace.disk.file? (before.workspace.disk.placeOf (.ofText id.text)) := by
      apply confined.files
      intro document known
      cases known
      rw [DocumentId.companion, FilePath.ofText_documentId]
      exact elsewhere
    rw [Disk.fileAt, Disk.placeOf_congr confined.sameRoot]
    exact kept

/-- With the suffix left out of the settings, a run leaves its selector alone. -/
theorem selector_kept_by_default :
    let before := (new (.onDisk sampleDisk)).performAll focusRun
    let after := before.perform echoSetup (.runSelector (some (.bare "page")))
    before.subject? (.runSelector (some (.bare "page"))) = some ⟨"s.temme"⟩ ∧
      after.workspace.buffer? ⟨"s.temme"⟩ = before.workspace.buffer? ⟨"s.temme"⟩ ∧
      after.workspace.disk.fileAt (.ofText "s.temme") =
        before.workspace.disk.fileAt (.ofText "s.temme") := by
  intro before after
  have suffixed : Config.default.outputSuffix ≠ "" := by decide
  have configured : ∀ call ∈ focusRun, call.1.config = Config.default.withOverrides {} := by decide
  have subject : before.subject? (.runSelector (some (.bare "page"))) = some ⟨"s.temme"⟩ := by
    decide +kernel
  obtain ⟨_, buffer, file⟩ := selector_kept suffixed configured (rfl : echoSetup.config = _)
    (rfl : (Operation.runSelector (some (.bare "page"))).isHost = false) subject
  exact ⟨subject, buffer, file (by decide)⟩

/-- A disk with a selector and a settings file that leaves the suffix empty. -/
def unsuffixedDisk : Disk :=
  ⟨[], [(["c.toml".toList], .file (.text "output_suffix = \"\"")),
    (["s.temme".toList], .file (.text "h1"))]⟩

def unsuffixedConfig : Config := { Config.default with outputSuffix := "" }

def unsuffixedSetup : Setup Unit := { echoSetup with config := unsuffixedConfig }

/-- A settings file may leave the suffix empty, and no remark is made; then the output of a selector
is the selector itself, and a run puts its result in the selector's place. -/
theorem selector_overwritten_without_suffix :
    let before := (new (.onDisk unsuffixedDisk)).performAll
      (focusRun.map fun call => (unsuffixedSetup, call.2))
    let after := before.perform unsuffixedSetup (.runSelector (some (.bare "page")))
    (Config.loadWithWarnings unsuffixedDisk (.ofText "c.toml")).toOption =
        some (unsuffixedConfig, []) ∧
      before.artifact? unsuffixedConfig.outputSuffix (.runSelector (some (.bare "page"))) =
        before.subject? (.runSelector (some (.bare "page"))) ∧
      before.workspace.text? ⟨"s.temme"⟩ = some "h1" ∧
      after.workspace.text? ⟨"s.temme"⟩ = some "\"h1\"" ∧
      before.workspace.disk.fileAt (.ofText "s.temme") = some (.text "h1") ∧
      after.workspace.disk.fileAt (.ofText "s.temme") = some (.text "\"h1\"") := by
  intro before after
  exact ⟨by decide +kernel, by decide +kernel, by decide +kernel, by decide +kernel,
    by decide +kernel, by decide +kernel⟩

end Engine

end LiveSelector
