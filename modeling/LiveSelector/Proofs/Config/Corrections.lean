import LiveSelector.Proofs.Config.Suggested
import LiveSelector.Proofs.Config.Warned
import LiveSelector.Proofs.Text.Metric

namespace LiveSelector.Config

/-! How far keys are apart, and what a settings file is told to write instead of its unknown keys.  A
suggestion is two edits away at most.  It is the unknown key itself if and only if that has the name
of a known key: a setting or a section that stands in a table where it is not looked up. -/

theorem keyDistance_eq (key other : List Char) :
    keyDistance key other = Text.editDistance (Text.encode key) (Text.encode other) :=
  Text.tableDistance_eq _ _

theorem keyDistance_eq_zero_iff (key other : List Char) :
    keyDistance key other = 0 ↔ key = other := by
  rw [keyDistance_eq, Text.editDistance_eq_zero_iff]
  exact ⟨Text.encode_injective, congrArg Text.encode⟩

/-- The table gives the distance of two keys, with every place that it looks up in its row: the least
number of edits of bytes that lead from one to the other, as the recursion has it.  It is a metric,
and lies between the difference and the maximum of the numbers of bytes. -/
theorem keyDistance_metric (key other third : List Char) :
    Text.tableDistance? (Text.encode key) (Text.encode other) = some (keyDistance key other) ∧
      keyDistance key other = Text.editDistance (Text.encode key) (Text.encode other) ∧
      IsLeast {count | Text.Edits count (Text.encode key) (Text.encode other)}
        (keyDistance key other) ∧
      (keyDistance key other = 0 ↔ key = other) ∧
      keyDistance key other = keyDistance other key ∧
      keyDistance key third ≤ keyDistance key other + keyDistance other third ∧
      (Text.encode key).length - (Text.encode other).length ≤ keyDistance key other ∧
      (Text.encode other).length - (Text.encode key).length ≤ keyDistance key other ∧
      keyDistance key other ≤ max (Text.encode key).length (Text.encode other).length := by
  have apart := keyDistance_eq_zero_iff key other
  rw [keyDistance_eq] at apart
  rw [keyDistance_eq key other, keyDistance_eq other key, keyDistance_eq key third,
    keyDistance_eq other third]
  have longer := Text.length_le_editDistance (Text.encode key) (Text.encode other)
  have shorter := Text.length_le_editDistance (Text.encode other) (Text.encode key)
  rw [Text.editDistance_comm (Text.encode other)] at shorter
  exact ⟨Text.tableDistance?_eq _ _, rfl, Text.isLeast_editDistance _ _, apart,
    Text.editDistance_comm _ _, Text.editDistance_triangle _ _ _, by omega, by omega,
    Text.editDistance_le_max _ _⟩

/-! What is suggested -/

variable {table : List (List Char)} {name : List Char} {key : String}

theorem suggest?_eq (name : List Char) : ∃ nearest, IsNearest name knownKeys nearest ∧
    suggest? name = if editsTo name nearest ≤ suggestionReach then some nearest else none := by
  obtain ⟨nearest, found, isNearest⟩ := nearest?_nonempty name knownKeys (by decide)
  refine ⟨nearest, isNearest, ?_⟩
  rw [suggest?, found]

theorem suggest?_reaches (suggested : suggest? name = some key) :
    key ∈ knownKeys ∧ editsTo name key ≤ suggestionReach := by
  obtain ⟨nearest, isNearest, answer⟩ := suggest?_eq name
  rw [answer] at suggested
  split at suggested
  · rename_i near
    cases suggested
    exact ⟨isNearest.mem, near⟩
  · cases suggested

/-- A known key is nearest to itself. -/
theorem suggest?_of_known (known : key ∈ knownKeys) : suggest? key.toList = some key := by
  obtain ⟨nearest, isNearest, answer⟩ := suggest?_eq key.toList
  have itself : editsTo key.toList key = 0 := (keyDistance_eq_zero_iff _ _).mpr rfl
  have least := isNearest.le known
  have zero : editsTo key.toList nearest = 0 := by omega
  have same : key = nearest := 
    String.toList_injective ((keyDistance_eq_zero_iff _ _).mp zero)
  subst same
  rw [answer, zero, if_pos (Nat.zero_le _)]

theorem suggest?_self_iff (key : String) : suggest? key.toList = some key ↔ key ∈ knownKeys :=
  ⟨fun suggested => (suggest?_reaches suggested).1, suggest?_of_known⟩

/-! Known keys in the wrong place -/

/-- A known key in a table that does not look it up. -/
inductive Misplaced : List (List Char) → List Char → Prop where
  | top {name : List Char} (stray : name ∈ [timeoutKey, userAgentKey, levelKey]) : Misplaced [] name
  | fetch {name : List Char}
      (stray : name ∈ [languageKey, suffixKey, limitKey, fetchKey, logKey, levelKey]) :
      Misplaced [fetchKey] name
  | log {name : List Char}
      (stray : name ∈ [languageKey, suffixKey, limitKey, fetchKey, timeoutKey, userAgentKey, logKey]) :
      Misplaced [logKey] name

theorem settingsOf?_eq_some {settings : List (List Char)} :
    settingsOf? name = some settings ↔
      (name = fetchKey ∧ settings = [timeoutKey, userAgentKey]) ∨
        (name = logKey ∧ settings = [levelKey]) := by
  have apart : logKey ≠ fetchKey := by decide
  unfold settingsOf?
  by_cases fetch : name = fetchKey
  · simp [fetch, apart.symm, eq_comm]
  · by_cases log : name = logKey
    · simp [log, apart, eq_comm]
    · simp [fetch, log]

theorem Misplaced.known (misplaced : Misplaced table name) : String.ofList name ∈ knownKeys := by
  have each : ∀ name ∈ [languageKey, suffixKey, limitKey, fetchKey, timeoutKey, userAgentKey, logKey,
      levelKey], String.ofList name ∈ knownKeys := by
    decide +kernel
  apply each
  cases misplaced with
  | top stray => exact List.Sublist.subset (by decide) stray
  | fetch stray => exact List.Sublist.subset (by decide) stray
  | log stray => exact List.Sublist.subset (by decide) stray

/-- The known keys that a table does not look up are the misplaced ones. -/
theorem Unknown.misplaced (unknown : Unknown table name) (known : String.ofList name ∈ knownKeys) :
    Misplaced table name := by
  cases unknown with
  | top single unknown =>
      have left : ∀ key ∈ knownKeys, settingsOf? key.toList = none →
          key.toList ∉ [languageKey, suffixKey, limitKey] →
            key.toList ∈ [timeoutKey, userAgentKey, levelKey] := by
        decide +kernel
      have stray := left _ known
      rw [String.toList_ofList] at stray
      exact .top (stray single unknown)
  | inside settings unknown =>
      rcases settingsOf?_eq_some.mp settings with ⟨rfl, rfl⟩ | ⟨rfl, rfl⟩
      · have left : ∀ key ∈ knownKeys, key.toList ∉ [timeoutKey, userAgentKey] →
            key.toList ∈ [languageKey, suffixKey, limitKey, fetchKey, logKey, levelKey] := by
          decide +kernel
        have stray := left _ known
        rw [String.toList_ofList] at stray
        exact .fetch (stray unknown)
      · have left : ∀ key ∈ knownKeys, key.toList ∉ [levelKey] →
            key.toList ∈ [languageKey, suffixKey, limitKey, fetchKey, timeoutKey, userAgentKey,
              logKey] := by
          decide +kernel
        have stray := left _ known
        rw [String.toList_ofList] at stray
        exact .log (stray unknown)

/-- What the remark on the key of a place suggests. -/
structure Corrects (place : KeyPlace) (warning : Warning) : Prop where
  name : warning.key.toList = lastPiece place.key
  reaches : ∀ key, warning.suggestion = some key →
    key ∈ knownKeys ∧ editsTo warning.key.toList key ≤ suggestionReach
  itself : warning.suggestion = some warning.key ↔ warning.key ∈ knownKeys
  misplaced : '.' ∉ place.key →
    (warning.suggestion = some warning.key ↔ Misplaced place.table place.key)

theorem lastPiece_of_dotless (dotless : '.' ∉ name) : lastPiece name = name := by
  rcases lastPiece_cases name with whole | ⟨front, split⟩
  · exact whole
  · rw [split] at dotless
    exact absurd (List.mem_append_right front List.mem_cons_self) dotless

theorem warningFor_corrects (file : FilePath) (content : List Char) {place : KeyPlace}
    (unknown : Unknown place.table place.key) :
    Corrects place (warningFor file content place.key) := by
  have name : (warningFor file content place.key).key.toList = lastPiece place.key :=
    String.toList_ofList
  have suggestion : (warningFor file content place.key).suggestion =
      suggest? (warningFor file content place.key).key.toList := by
    rw [name]
    rfl
  have itself := suggest?_self_iff (warningFor file content place.key).key
  rw [← suggestion] at itself
  refine ⟨name, fun key suggested => suggest?_reaches (suggestion ▸ suggested), itself,
    fun dotless => itself.trans ?_⟩
  have whole : (warningFor file content place.key).key = String.ofList place.key :=
    congrArg String.ofList (lastPiece_of_dotless dotless)
  rw [whole]
  exact ⟨unknown.misplaced, Misplaced.known⟩

theorem ofText?_places {content : List Char} {config : Config} {keys : List (List Char)}
    (given : ofText? content = some (config, keys)) :
    ∃ placed members, Toml.Lays 1 [] (Toml.unifyBreaks (Toml.dropByteOrder content)) placed ∧
      Outlines placed members ∧ keys = (unknownPlaces placed).map KeyPlace.key := by
  unfold ofText? at given
  split at given
  · cases given
  · rename_i members read
    obtain ⟨_, meant, same⟩ := Option.map_eq_some_iff.mp given
    cases same
    obtain ⟨placed, lays, outlines⟩ := outlines_of_read read
    exact ⟨placed, members, lays, outlines,
      unknownKeys_eq (Toml.read?_distinct read) outlines meant⟩

variable {disk : Disk} {file : FilePath} {config : Config} {warnings : List Warning}

theorem loadWithWarnings_ok (loaded : loadWithWarnings disk file = .ok (config, warnings)) :
    ∃ content keys, disk.readText file = .ok content ∧
      ofText? content.toList = some (config, keys) ∧
      warnings = keys.map (warningFor file content.toList) := by
  unfold loadWithWarnings at loaded
  split at loaded
  · cases loaded
  · rename_i content read
    split at loaded
    · cases loaded
    · rename_i settings keys given
      cases loaded
      exact ⟨content, keys, read, given, rfl⟩

/-- Every remark on settings that load suggests a known key within reach of the unknown one, or none.
It suggests the unknown key itself if and only if that has the name of a known key, which is so of a
key without a dot if and only if it is a known key in a table that does not look it up. -/
theorem loadWithWarnings_corrects
    (loaded : loadWithWarnings disk file = .ok (config, warnings)) :
    ∃ content placed places, disk.readText file = .ok content ∧
      Toml.Lays 1 [] (Toml.unifyBreaks (Toml.dropByteOrder content.toList)) placed ∧
      Reports placed places ∧ List.Forall₂ Corrects places warnings := by
  obtain ⟨content, keys, read, given, rfl⟩ := loadWithWarnings_ok loaded
  obtain ⟨placed, members, lays, outlines, rfl⟩ := ofText?_places given
  refine ⟨content, placed, unknownPlaces placed, read, lays,
    unknownPlaces_reports outlines lays.ascending, ?_⟩
  rw [List.map_map]
  refine List.forall₂_map_right_iff.mpr (List.forall₂_same.mpr fun place member => ?_)
  exact warningFor_corrects file content.toList (mem_unknownPlaces.mp member).1

/-! A level at the top and a log section among the settings of another one -/

def misplaced : String :=
  "level = 'debug'\nlg = 1\n[fetch]\nlog = 2\n"

def misplacedDisk : Disk :=
  ⟨[], [([['c']], .file (.text misplaced))]⟩

def misplacedWarnings : List Warning :=
  [⟨"level", .ofText "c", some 1, some "level"⟩, ⟨"lg", .ofText "c", some 2, some "log"⟩,
    ⟨"log", .ofText "c", some 4, some "log"⟩]

theorem misplaced_loads :
    loadWithWarnings misplacedDisk (.ofText "c") = .ok ({}, misplacedWarnings) := by
  decide +kernel

theorem misplaced_corrected :
    loadWithWarnings misplacedDisk (.ofText "c") = .ok ({}, misplacedWarnings) ∧
      ∃ content placed places, misplacedDisk.readText (.ofText "c") = .ok content ∧
        Toml.Lays 1 [] (Toml.unifyBreaks (Toml.dropByteOrder content.toList)) placed ∧
        Reports placed places ∧ List.Forall₂ Corrects places misplacedWarnings :=
  ⟨misplaced_loads, loadWithWarnings_corrects misplaced_loads⟩

/-- Not every suggestion is another key than the one that is not known. -/
theorem misplaced_suggested :
    ¬ ∀ (disk : Disk) (file : FilePath) (config : Config) (warnings : List Warning),
      loadWithWarnings disk file = .ok (config, warnings) →
        ∀ warning ∈ warnings, ∀ key, warning.suggestion = some key → key ≠ warning.key := by
  intro corrections
  have among : ⟨"level", .ofText "c", some 1, some "level"⟩ ∈ misplacedWarnings :=
    List.mem_cons_self
  exact corrections _ _ _ _ misplaced_loads _ among "level" rfl rfl

end LiveSelector.Config
