import LiveSelector.Config.Layers
import LiveSelector.Proofs.Config.Described
import LiveSelector.Proofs.Text.Trimming
import Mathlib.Data.Nat.Digits.Defs

namespace LiveSelector.Config

/-! Which settings hold: those of the first file that loads, or else the defaults, each replaced by
what its own variable says.  A variable says a text or a number by what is left of it between
blanks. -/

/-! Which file is taken -/

variable {α : Type} {disk : Disk} {file : FilePath} {files : List FilePath} {config : Config}

/-- A file loads if it can be read, is in order and gives every setting that it names a value of the
right kind. -/
def Loads (disk : Disk) (file : FilePath) (config : Config) : Prop :=
  ∃ content members, disk.readText file = .ok content ∧
    Toml.read? content.toList = some members ∧ Describes members config

/-- The settings of the first file that loads, the defaults if none does. -/
inductive FirstLoading (disk : Disk) : List FilePath → Config → Prop where
  | none : FirstLoading disk [] default
  | first {file : FilePath} {rest : List FilePath} {config : Config}
      (loads : Loads disk file config) : FirstLoading disk (file :: rest) config
  | later {file : FilePath} {rest : List FilePath} {config : Config}
      (fails : ∀ other, ¬ Loads disk file other) (later : FirstLoading disk rest config) :
      FirstLoading disk (file :: rest) config

theorem load_eq_ok : load disk file = .ok config ↔ Loads disk file config := by
  simp only [load, loadWithWarnings, Loads]
  cases disk.readText file with
  | error reason => simp [Except.map]
  | ok content =>
      cases spelled : Toml.read? content.toList with
      | none => simp [ofText?, spelled, Except.map]
      | some members =>
          have described := ofMembers?_eq_some config (Toml.read?_distinct spelled)
          cases given : ofMembers? members with
          | none => simp [ofText?, spelled, given, Except.map, ← described]
          | some other => simp [ofText?, spelled, given, Except.map, ← described]

theorem hasNode_of_readText {content : String} (read : disk.readText file = .ok content) :
    disk.hasNode file = true := by
  unfold Disk.hasNode
  unfold Disk.readText at read
  split at read
  · cases read
  · rename_i found
    rw [found]

theorem loadIfPresent?_eq_some :
    loadIfPresent? disk file = some config ↔ Loads disk file config := by
  rw [← load_eq_ok, loadIfPresent?]
  split
  · cases load disk file <;> simp [Except.toOption]
  · rename_i absent
    rw [load_eq_ok]
    constructor
    · exact fun loaded => by cases loaded
    · rintro ⟨content, members, read, _⟩
      exact absurd (hasNode_of_readText read) absent

theorem firstLoaded?_eq : (firstLoaded? disk files).getD default = config ↔
    FirstLoading disk files config := by
  induction files with
  | nil =>
      constructor
      · rintro rfl
        exact .none
      · rintro ⟨⟩
        rfl
  | cons file rest ih =>
      rw [firstLoaded?, List.findSome?_cons]
      cases loaded : loadIfPresent? disk file with
      | some other =>
          have loads := loadIfPresent?_eq_some.mp loaded
          constructor
          · rintro rfl
            exact .first loads
          · rintro (_ | again | ⟨fails, _⟩)
            · rw [loadIfPresent?_eq_some.mpr again] at loaded
              exact (Option.some.inj loaded).symm
            · exact absurd loads (fails other)
      | none =>
          have fails : ∀ other, ¬ Loads disk file other := fun other loads => by
            rw [loadIfPresent?_eq_some.mpr loads] at loaded
            cases loaded
          constructor
          · exact fun same => .later fails (ih.mp same)
          · rintro (_ | loads | ⟨_, later⟩)
            · exact absurd loads (fails config)
            · exact ih.mpr later

/-! What a variable replaces -/

/-- A usable variable replaces a setting; any other leaves it as it was. -/
inductive Replaces (usable : String → α → Prop) (given : Option String) (old : α) : α → Prop where
  | used {text : String} {new : α} (set : given = some text) (meant : usable text new) :
      Replaces usable given old new
  | kept (useless : ∀ text new, given = some text → ¬ usable text new) :
      Replaces usable given old old

/-- What is left of a text between blanks, if anything is. -/
def SaysText (text said : String) : Prop :=
  Text.Trims text.toList said.toList ∧ said ≠ ""

def SaysLevel (text level : String) : Prop :=
  ∃ said, SaysText text said ∧ Text.lowerCase said = level

def SaysSuffix (text suffix : String) : Prop :=
  suffix = text ∧ text ≠ ""

def numberOf (digits : List Char) : Nat :=
  Nat.ofDigits 10 (digits.reverse.map fun digit => digit.toNat - '0'.toNat)

/-- Decimal digits between blanks, with or without a plus sign, that spell a number of 64 bits. -/
inductive SaysSeconds (text : String) : Nat → Prop where
  | digits {digits : List Char}
      (spelled : Text.Trims text.toList digits ∨ Text.Trims text.toList ('+' :: digits))
      (nonempty : digits ≠ []) (decimal : ∀ digit ∈ digits, digit.isDigit = true)
      (fits : numberOf digits < 2 ^ 64) : SaysSeconds text (numberOf digits)

/-- Every setting that has a variable is replaced by its own, and no other setting changes. -/
structure Overridden (overrides : Overrides) (base config : Config) : Prop where
  languageId : Replaces SaysText overrides.language base.languageId config.languageId
  outputSuffix : Replaces SaysSuffix overrides.outputSuffix base.outputSuffix config.outputSuffix
  linkScanLimit : config.linkScanLimit = base.linkScanLimit
  timeoutSecs : Replaces SaysSeconds overrides.fetchTimeout base.fetch.timeoutSecs
    config.fetch.timeoutSecs
  userAgent : config.fetch.userAgent = base.fetch.userAgent
  level : Replaces SaysLevel overrides.logLevel base.log.level config.log.level

theorem replaces_iff {read : String → Option α} {usable : String → α → Prop}
    {given : Option String} {old new : α}
    (reads : ∀ text new, read text = some new ↔ usable text new) :
    (given.bind read).getD old = new ↔ Replaces usable given old new := by
  cases said : given.bind read with
  | some value =>
      obtain ⟨text, set, meant⟩ := Option.bind_eq_some_iff.mp said
      constructor
      · rintro rfl
        exact .used set ((reads text value).mp meant)
      · rintro (⟨again, other⟩ | useless)
        · rw [again, Option.bind_some, (reads _ new).mpr other] at said
          exact (Option.some.inj said).symm
        · exact absurd ((reads text value).mp meant) (useless text value set)
  | none =>
      have useless : ∀ text new, given = some text → ¬ usable text new := by
        rintro text new rfl meant
        rw [Option.bind_some, (reads text new).mpr meant] at said
        cases said
      constructor
      · rintro rfl
        exact .kept useless
      · rintro (⟨set, meant⟩ | _)
        · exact absurd meant (useless _ new set)
        · rfl

theorem solidText?_eq_some {text said : String} :
    solidText? text = some said ↔ SaysText text said := by
  have trimmed : Text.Trims text.toList said.toList ↔ Text.trim text = said := by
    rw [Text.trims_iff, Text.trim, ← String.toList_inj, String.toList_ofList]
  rw [SaysText, trimmed, solidText?]
  split
  · rename_i nothing
    simp [nothing]
  · rename_i something
    simp only [Option.some.injEq]
    constructor
    · rintro rfl
      exact ⟨rfl, something⟩
    · exact And.left

theorem level_eq_some {text level : String} :
    (solidText? text).map Text.lowerCase = some level ↔ SaysLevel text level := by
  simp only [Option.map_eq_some_iff, solidText?_eq_some, SaysLevel]

theorem suffix_eq_some {text suffix : String} :
    (if text ≠ "" then some text else none) = some suffix ↔ SaysSuffix text suffix := by
  by_cases nothing : text = "" <;> simp [SaysSuffix, nothing, eq_comm]

theorem foldl_eq_numberOf (digits : List Char) :
    digits.foldl (fun value c => value * 10 + (c.toNat - 48)) 0 = numberOf digits := by
  induction digits using List.reverseRecOn with
  | nil => rfl
  | append_singleton front last ih =>
      rw [List.foldl_concat, ih, numberOf, numberOf, List.reverse_concat, List.map_cons,
        Nat.ofDigits_cons]
      have zero : '0'.toNat = 48 := rfl
      rw [zero]
      omega

/-- Characters without a plus sign before them. -/
def unsigned : List Char → List Char
  | '+' :: rest => rest
  | rest => rest

theorem unsigned_cases (core : List Char) : core = unsigned core ∨ core = '+' :: unsigned core := by
  unfold unsigned
  split
  · exact .inr rfl
  · exact .inl rfl

theorem unsigned_digits {digits : List Char} (decimal : ∀ digit ∈ digits, digit.isDigit = true) :
    unsigned digits = digits := by
  unfold unsigned
  split
  · have sign := decimal '+' (by simp)
    contradiction
  · rfl

theorem seconds?_eq (text : String) :
    seconds? text =
      let digits := unsigned (Text.trimChars text.toList)
      if digits ≠ [] && digits.all Char.isDigit then
        if numberOf digits < 2 ^ 64 then some (numberOf digits) else none
      else none := by
  simp only [← foldl_eq_numberOf]
  rfl

theorem seconds?_eq_some {text : String} {count : Nat} :
    seconds? text = some count ↔ SaysSeconds text count := by
  rw [seconds?_eq]
  constructor
  · intro read
    simp only at read
    split at read
    · rename_i usable
      simp only [ne_eq, Bool.and_eq_true, decide_eq_true_eq, List.all_eq_true] at usable
      split at read <;> cases read
      rename_i fits
      refine .digits ?_ usable.1 usable.2 fits
      rcases unsigned_cases (Text.trimChars text.toList) with same | signed
      · exact .inl (Text.trims_iff.mpr same)
      · exact .inr (Text.trims_iff.mpr signed)
    · cases read
  · rintro @⟨digits, spelled, nonempty, decimal, fits⟩
    have same : unsigned (Text.trimChars text.toList) = digits := by
      rcases spelled with plain | signed
      · rw [plain.trimChars, unsigned_digits decimal]
      · rw [signed.trimChars, unsigned]
    have usable : (digits ≠ [] && digits.all Char.isDigit) = true := by
      simpa [nonempty] using decimal
    simp only [same, usable, fits, if_true]

theorem withOverrides_eq {overrides : Overrides} {base : Config} :
    base.withOverrides overrides = config ↔ Overridden overrides base config := by
  have suffix : (overrides.outputSuffix.filter fun suffix => suffix ≠ "") =
      overrides.outputSuffix.bind fun text => if text ≠ "" then some text else none := by
    cases overrides.outputSuffix <;> simp [Option.filter]
  have level : (overrides.logLevel.bind solidText?).map Text.lowerCase =
      overrides.logLevel.bind fun text => (solidText? text).map Text.lowerCase := by
    cases overrides.logLevel <;> rfl
  obtain ⟨languageId, outputSuffix, linkScanLimit, ⟨timeoutSecs, userAgent⟩, ⟨logLevel⟩⟩ := config
  simp only [withOverrides, suffix, level, Config.mk.injEq, FetchSettings.mk.injEq,
    LogSettings.mk.injEq, replaces_iff fun _ _ => solidText?_eq_some,
    replaces_iff fun _ _ => suffix_eq_some, replaces_iff fun _ _ => seconds?_eq_some,
    replaces_iff fun _ _ => level_eq_some]
  constructor
  · rintro ⟨language, suffix, limit, ⟨timeout, agent⟩, level⟩
    exact ⟨language, suffix, limit.symm, timeout, agent.symm, level⟩
  · rintro ⟨language, suffix, limit, timeout, agent, level⟩
    exact ⟨language, suffix, limit.symm, ⟨timeout, agent.symm⟩, level⟩

theorem withOverrides_again (config : Config) (overrides : Overrides) :
    (config.withOverrides overrides).withOverrides overrides = config.withOverrides overrides := by
  have again {α : Type} (given : Option α) (old : α) :
      given.getD (given.getD old) = given.getD old := by
    cases given <;> rfl
  simp only [withOverrides, again]

/-! The layers together -/

/-- Where settings are looked for: in the project's file, then in the user's. -/
def settingsFiles (root userDirectory : Option FilePath) : List FilePath :=
  (root.map fun directory => directory.join projectFile).toList ++
    (userDirectory.map fun directory => directory.join userFile).toList

/-- The settings for a project are those of the first file that loads, or else the defaults, with
every usable variable in place of its own setting; to apply the variables again changes nothing. -/
theorem resolve_layered (disk : Disk) (root userDirectory : Option FilePath)
    (overrides : Overrides) :
    (∀ config, resolve disk root userDirectory overrides = config ↔
      ∃ base, FirstLoading disk (settingsFiles root userDirectory) base ∧
        Overridden overrides base config) ∧
    ∀ config : Config, (config.withOverrides overrides).withOverrides overrides =
      config.withOverrides overrides := by
  refine ⟨fun config => ?_, fun config => withOverrides_again config overrides⟩
  constructor
  · intro resolved
    exact ⟨_, firstLoaded?_eq.mp rfl, withOverrides_eq.mp resolved⟩
  · rintro ⟨base, first, overridden⟩
    rw [resolve, ← settingsFiles, firstLoaded?_eq.mpr first]
    exact withOverrides_eq.mpr overridden

/-- The project's file gives a text for a number; the user's names one setting and a key that is not
known. -/
def layeredDisk : Disk :=
  ⟨[], [([['p']], .directory), ([['p'], ".temme".toList], .directory),
    ([['p'], ".temme".toList, "config.toml".toList], .file (.text "link_scan_limit = 'many'")),
    ([['u']], .directory), ([['u'], "temme-live".toList], .directory),
    ([['u'], "temme-live".toList, "config.toml".toList],
      .file (.text "[fetch]\nlater = 5\ntimeout_secs = 3"))]⟩

example :
    resolve layeredDisk (some (.ofText "p")) (some (.ofText "u"))
        { language := some " ", logLevel := some " WARN " } =
      { fetch := { timeoutSecs := 3 }, log := { level := "warn" } } := by
  decide +kernel

end LiveSelector.Config
