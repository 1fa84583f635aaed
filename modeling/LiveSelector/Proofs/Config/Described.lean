import LiveSelector.Config.File
import LiveSelector.Proofs.Toml.Distinct

namespace LiveSelector.Config

/-! What the members of a settings file say, in whatever order they stand and with any others
between them: a setting that the file names is what its value means, and every other setting is its
default.  A value of the wrong kind for its key says nothing, and then the whole file does not. -/

variable {α : Type} {members : Toml.Members} {config : Config} {value : Toml}

inductive MeansText : Toml → String → Prop where
  | string (text : List Char) : MeansText (.string text) (.ofList text)

inductive MeansCount : Toml → Nat → Prop where
  | integer (count : Nat) : MeansCount (.integer count) count

/-- A setting is its default where no value is given for it, and otherwise what that value means. -/
inductive Stands (default : α) (given : Toml → Prop) (means : Toml → α → Prop) : α → Prop where
  | default (missing : ∀ value, ¬ given value) : Stands default given means default
  | named {value : Toml} {setting : α} (named : given value) (meant : means value setting) :
      Stands default given means setting

/-- A section gives a value under the key of a setting, or at its place if it has no keys. -/
inductive Gives (key : List Char) (place : Nat) : Toml → Toml → Prop where
  | table {origin : Toml.Origin} {members : Toml.Members} {value : Toml}
      (member : (key, value) ∈ members) : Gives key place (.table origin members) value
  | array {items : List Toml} {value : Toml} (item : items[place]? = some value) :
      Gives key place (.array items) value
  | tables {items : List Toml} {value : Toml} (item : items[place]? = some value) :
      Gives key place (.tables items) value

def IsSection : Toml → Prop
  | .table _ _ | .array _ | .tables _ | .moment => True
  | _ => False

structure MeansFetch (value : Toml) (fetch : FetchSettings) : Prop where
  isSection : IsSection value
  timeoutSecs : Stands default.fetch.timeoutSecs (Gives timeoutKey 0 value) MeansCount
    fetch.timeoutSecs
  userAgent : Stands default.fetch.userAgent (Gives userAgentKey 1 value) MeansText fetch.userAgent

structure MeansLog (value : Toml) (log : LogSettings) : Prop where
  isSection : IsSection value
  level : Stands default.log.level (Gives levelKey 0 value) MeansText log.level

/-- The members of a file say what the settings are; members with other keys do not matter. -/
structure Describes (members : Toml.Members) (config : Config) : Prop where
  languageId : Stands default.languageId (fun value => (languageKey, value) ∈ members) MeansText
    config.languageId
  outputSuffix : Stands default.outputSuffix (fun value => (suffixKey, value) ∈ members) MeansText
    config.outputSuffix
  linkScanLimit : Stands default.linkScanLimit (fun value => (limitKey, value) ∈ members) MeansCount
    config.linkScanLimit
  fetch : Stands default.fetch (fun value => (fetchKey, value) ∈ members) MeansFetch config.fetch
  log : Stands default.log (fun value => (logKey, value) ∈ members) MeansLog config.log

theorem stringOf?_eq_some {text : String} : stringOf? value = some text ↔ MeansText value text := by
  constructor
  · intro read
    unfold stringOf? at read
    split at read <;> cases read
    exact .string _
  · rintro ⟨text⟩
    rfl

theorem countOf?_eq_some {count : Nat} : countOf? value = some count ↔ MeansCount value count := by
  constructor
  · intro read
    unfold countOf? at read
    split at read
    · rename_i number
      split at read <;> cases read
      rename_i natural
      obtain ⟨count, rfl⟩ := Int.eq_ofNat_of_zero_le natural
      exact .integer count
    · cases read
  · rintro ⟨count⟩
    simp [countOf?]

theorem setting_eq_some {read : Toml → Option α} {means : Toml → α → Prop} {given : Toml → Prop}
    {default result : α} {found : Option Toml} (finds : ∀ value, found = some value ↔ given value)
    (reads : ∀ value result, given value → (read value = some result ↔ means value result)) :
    setting read default found = some result ↔ Stands default given means result := by
  cases found with
  | none =>
      have missing : ∀ value, ¬ given value := fun value named => by
        simpa using (finds value).mpr named
      constructor
      · intro same
        cases same
        exact .default missing
      · rintro (_ | ⟨named, _⟩)
        · rfl
        · exact absurd named (missing _)
  | some value =>
      have named : given value := (finds value).mp rfl
      constructor
      · exact fun meant => .named named ((reads value result named).mp meant)
      · rintro (missing | ⟨other, meant⟩)
        · exact absurd named (missing value)
        · cases (finds _).mpr other
          exact (reads value result named).mpr meant

theorem value?_eq_some {key : List Char} {place : Nat} {part : Section} {given : Toml}
    (distinct : value.Distinct) (cut : sectionOf? value = some part) :
    part.value? key place = some given ↔ Gives key place value given := by
  cases value with
  | table origin members =>
      cases cut
      constructor
      · exact fun found => .table (Toml.mem_of_find? found)
      · rintro ⟨member⟩
        exact (Toml.find?_eq_some (Toml.distinct_table.mp distinct).keys).mpr member
  | array items =>
      cases cut
      exact ⟨.array, fun | .array item => item⟩
  | tables items =>
      cases cut
      exact ⟨.tables, fun | .tables item => item⟩
  | moment =>
      cases cut
      constructor
      · exact fun found => by cases found
      · exact fun gives => by cases gives
  | string text => cases cut
  | integer number => cases cut
  | float => cases cut
  | boolean flag => cases cut

theorem isSection_iff : IsSection value ↔ ∃ part, sectionOf? value = some part := by
  cases value <;> simp [IsSection, sectionOf?]

section

variable {read : Toml → Option α} {means : Toml → α → Prop} {key : List Char} {initial result : α}

theorem setting_of_section {place : Nat} {part : Section} (distinct : value.Distinct)
    (cut : sectionOf? value = some part)
    (reads : ∀ value result, read value = some result ↔ means value result) :
    setting read initial (part.value? key place) = some result ↔
      Stands initial (Gives key place value) means result :=
  setting_eq_some (fun _ => value?_eq_some distinct cut) fun value result _ => reads value result

theorem setting_of_members (distinct : Toml.DistinctMembers members)
    (reads : ∀ value result, value.Distinct → (read value = some result ↔ means value result)) :
    setting read initial (Toml.find? key members) = some result ↔
      Stands initial (fun value => (key, value) ∈ members) means result :=
  setting_eq_some (fun _ => Toml.find?_eq_some distinct.keys)
    fun value result named => reads value result (distinct.each _ named)

end

theorem fetchOf?_eq_some (distinct : value.Distinct) {fetch : FetchSettings} :
    fetchOf? value = some fetch ↔ MeansFetch value fetch := by
  simp only [fetchOf?, Option.bind_eq_bind, Option.bind_eq_some_iff]
  constructor
  · rintro ⟨part, cut, timeoutSecs, first, userAgent, second, same⟩
    cases same
    exact ⟨isSection_iff.mpr ⟨part, cut⟩,
      (setting_of_section distinct cut fun _ _ => countOf?_eq_some).mp first,
      (setting_of_section distinct cut fun _ _ => stringOf?_eq_some).mp second⟩
  · rintro ⟨isSection, first, second⟩
    obtain ⟨part, cut⟩ := isSection_iff.mp isSection
    exact ⟨part, cut, _, (setting_of_section distinct cut fun _ _ => countOf?_eq_some).mpr first,
      _, (setting_of_section distinct cut fun _ _ => stringOf?_eq_some).mpr second, rfl⟩

theorem logOf?_eq_some (distinct : value.Distinct) {log : LogSettings} :
    logOf? value = some log ↔ MeansLog value log := by
  simp only [logOf?, Option.bind_eq_bind, Option.bind_eq_some_iff]
  constructor
  · rintro ⟨part, cut, level, first, same⟩
    cases same
    exact ⟨isSection_iff.mpr ⟨part, cut⟩,
      (setting_of_section distinct cut fun _ _ => stringOf?_eq_some).mp first⟩
  · rintro ⟨isSection, first⟩
    obtain ⟨part, cut⟩ := isSection_iff.mp isSection
    exact ⟨part, cut, _,
      (setting_of_section distinct cut fun _ _ => stringOf?_eq_some).mpr first, rfl⟩

theorem ofMembers?_eq_some (config : Config) (distinct : Toml.DistinctMembers members) :
    ofMembers? members = some config ↔ Describes members config := by
  have texts : ∀ value result, value.Distinct →
      (stringOf? value = some result ↔ MeansText value result) :=
    fun _ _ _ => stringOf?_eq_some
  have counts : ∀ value result, value.Distinct →
      (countOf? value = some result ↔ MeansCount value result) :=
    fun _ _ _ => countOf?_eq_some
  have fetches : ∀ value result, value.Distinct →
      (fetchOf? value = some result ↔ MeansFetch value result) :=
    fun _ _ distinct => fetchOf?_eq_some distinct
  have logs : ∀ value result, value.Distinct →
      (logOf? value = some result ↔ MeansLog value result) :=
    fun _ _ distinct => logOf?_eq_some distinct
  simp only [ofMembers?, Option.bind_eq_bind, Option.bind_eq_some_iff,
    setting_of_members distinct texts, setting_of_members distinct counts,
    setting_of_members distinct fetches, setting_of_members distinct logs]
  constructor
  · rintro ⟨_, language, _, suffix, _, limit, _, pages, _, level, same⟩
    cases same
    exact ⟨language, suffix, limit, pages, level⟩
  · rintro ⟨language, suffix, limit, pages, level⟩
    exact ⟨_, language, _, suffix, _, limit, _, pages, _, level, rfl⟩

end LiveSelector.Config
