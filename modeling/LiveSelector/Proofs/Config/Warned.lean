import LiveSelector.Proofs.Config.Remarks

namespace LiveSelector.Config

open Toml (Placed Members IsRow find?)

/-! Remarks on a settings file.  Every unknown key is remarked on once, by what follows the last dot
of its name, and with the first line of the file on which that text stands anywhere: in a comment,
in a value or in another key as well.  So the line is the one on which the key is written if and only
if the text is on no earlier line. -/

/-! One remark for each unknown key -/

theorem unknownInSection_eq {known : List (List Char)} (bare : momentKey ∉ known) (value : Toml) :
    unknownInSection known value = (keysOf value).filter fun name => !known.contains name := by
  cases value with
  | moment => simp [unknownInSection, sectionOf?, keysOf, bare]
  | table origin members => simp [unknownInSection, sectionOf?, keysOf]
  | _ => rfl

/-- What is not known of a key of a document, the keys under it being given. -/
def unknownOf (key : List Char) (inner : List (List Char)) : List (List Char) :=
  match settingsOf? key with
  | some settings => inner.filter fun name => !settings.contains name
  | none => if [languageKey, suffixKey, limitKey].contains key then [] else [key]

theorem unknownInMember_eq (key : List Char) (value : Toml) :
    unknownInMember (key, value) = unknownOf key (keysOf value) := by
  have apart : momentKey ∉ [timeoutKey, userAgentKey] ∧ momentKey ∉ [levelKey] := by decide
  unfold unknownInMember unknownOf settingsOf?
  by_cases fetch : key = fetchKey
  · simp only [fetch, if_true, unknownInSection_eq apart.1]
  · by_cases log : key = logKey
    · have other : logKey ≠ fetchKey := by decide
      simp only [log, other, if_false, if_true, unknownInSection_eq apart.2]
    · simp only [fetch, log, if_false, List.contains_iff_mem]

variable {placed : List Placed} {members : Members} {place : KeyPlace}

theorem placesUnder_keys (entry : List Char × Nat) :
    (placesUnder placed entry).map KeyPlace.key =
      unknownOf entry.1 ((outline [entry.1] placed).map Prod.fst) := by
  cases known : settingsOf? entry.1 with
  | some settings =>
      simp only [placesUnder, unknownOf, known, List.map_map, List.filter_map]
      rfl
  | none =>
      simp only [placesUnder, unknownOf, known]
      split <;> rfl

theorem fetchOf?_of_isRow {value : Toml} (row : IsRow value) : fetchOf? value = none := by
  obtain ⟨origin, members, others, rfl⟩ := row
  rfl

theorem logOf?_of_isRow {value : Toml} (row : IsRow value) : logOf? value = none := by
  obtain ⟨origin, members, others, rfl⟩ := row
  rfl

/-- No section of settings that are loaded is an array of tables. -/
theorem not_isRow_of_loaded {config : Config} (loaded : ofMembers? members = some config)
    {name : List Char} {settings : List (List Char)} (known : settingsOf? name = some settings)
    {value : Toml} (found : find? name members = some value) : ¬ IsRow value := by
  intro row
  simp only [ofMembers?, Option.bind_eq_bind, Option.bind_eq_some_iff] at loaded
  obtain ⟨_, _, _, _, _, _, _, pages, _, level, _⟩ := loaded
  unfold settingsOf? at known
  split at known
  · rename_i fetch
    rw [fetch] at found
    rw [found, setting, fetchOf?_of_isRow row] at pages
    cases pages
  · split at known
    · rename_i log
      rw [log] at found
      rw [found, setting, logOf?_of_isRow row] at level
      cases level
    · cases known

/-- The unknown keys of loaded settings, by their places. -/
theorem unknownKeys_eq {config : Config} (distinct : Toml.DistinctMembers members)
    (outlines : Outlines placed members) (loaded : ofMembers? members = some config) :
    unknownKeys members = (unknownPlaces placed).map KeyPlace.key := by
  have each : ∀ member ∈ members, unknownInMember member =
      unknownOf member.1 ((outline [member.1] placed).map Prod.fst) := by
    intro member among
    have found : find? member.1 members = some member.2 :=
      (Toml.find?_eq_some distinct.keys).mpr among
    rw [unknownInMember_eq]
    cases known : settingsOf? member.1 with
    | none => simp only [unknownOf, known]
    | some settings =>
        cases outlines.sections member.1 with
        | row other row =>
            rw [found] at other
            cases other
            exact absurd row (not_isRow_of_loaded loaded known found)
        | keys noRow same =>
            rw [keysUnder_of_find? found] at same
            rw [same]
  calc unknownKeys members
      = members.flatMap fun member =>
          unknownOf member.1 ((outline [member.1] placed).map Prod.fst) := List.flatMap_congr each
    _ = (members.map Prod.fst).flatMap fun key =>
          unknownOf key ((outline [key] placed).map Prod.fst) := by rw [List.flatMap_map]
    _ = (outline [] placed).flatMap fun entry =>
          unknownOf entry.1 ((outline [entry.1] placed).map Prod.fst) := by
        rw [outlines.document, List.flatMap_map]
    _ = (unknownPlaces placed).map KeyPlace.key := by
        rw [unknownPlaces, List.map_flatMap]
        exact List.flatMap_congr fun entry _ => (placesUnder_keys entry).symm

/-! The line of a remark -/

/-- A line of a file, counted from one, holds a text. -/
def Holds (content text : List Char) (line : Nat) : Prop :=
  ∃ index row, line = index + 1 ∧ (Text.readLines content)[index]? = some row ∧ text <:+: row

variable {content text : List Char} {line : Nat}

theorem lineHolding?_eq_some :
    lineHolding? content text = some line ↔
      Holds content text line ∧ ∀ earlier < line, ¬ Holds content text earlier := by
  unfold lineHolding?
  rw [Option.map_eq_some_iff]
  constructor
  · intro found
    obtain ⟨index, found, rfl⟩ := found
    obtain ⟨bound, occurs, first⟩ := List.findIdx?_eq_some_iff_getElem.mp found
    refine ⟨⟨index, _, rfl, List.getElem?_eq_getElem bound, Text.occursIn_iff.mp occurs⟩, ?_⟩
    intro earlier before holds
    obtain ⟨other, row, rfl, listed, inside⟩ := holds
    obtain ⟨within, same⟩ := List.getElem?_eq_some_iff.mp listed
    apply first other (by omega)
    rw [same]
    exact Text.occursIn_iff.mpr inside
  · intro found
    obtain ⟨⟨index, row, rfl, listed, inside⟩, first⟩ := found
    obtain ⟨within, same⟩ := List.getElem?_eq_some_iff.mp listed
    refine ⟨index, List.findIdx?_eq_some_iff_getElem.mpr ⟨within, ?_, ?_⟩, rfl⟩
    · rw [same]
      exact Text.occursIn_iff.mpr inside
    · intro earlier before occurs
      apply first (earlier + 1) (by omega)
      exact ⟨earlier, _, rfl, List.getElem?_eq_getElem _, Text.occursIn_iff.mp occurs⟩

theorem Holds.first (holds : Holds content text line) :
    ∃ first ≤ line, lineHolding? content text = some first := by
  cases found : lineHolding? content text with
  | some first =>
      refine ⟨first, ?_, rfl⟩
      by_contra behind
      exact (lineHolding?_eq_some.mp found).2 line (by omega) holds
  | none =>
      obtain ⟨index, row, _, listed, inside⟩ := holds
      have absent := List.findIdx?_eq_none_iff.mp (Option.map_eq_none_iff.mp found) row
        (List.mem_of_getElem? listed)
      rw [Text.occursIn_iff.mpr inside] at absent
      cases absent

theorem Holds.narrow {part : List Char} (holds : Holds content text line) (inside : part <:+: text) :
    Holds content part line := by
  obtain ⟨index, row, same, listed, among⟩ := holds
  exact ⟨index, row, same, listed, inside.trans among⟩

/-! The name in a remark -/

theorem lastPiece_of_pieces {key last : List Char} {front : List (List Char)}
    (cut : Text.pieces '.' key = front ++ [last]) : lastPiece key = last := by
  rw [lastPiece, cut, List.getLastD_concat]

/-- A name is the whole key, or what follows a dot of the key. -/
theorem lastPiece_cases (key : List Char) :
    lastPiece key = key ∨ ∃ front, key = front ++ '.' :: lastPiece key := by
  have joined := Text.joinPieces_pieces '.' key
  obtain ⟨front, last, cut⟩ := (List.eq_nil_or_concat (Text.pieces '.' key)).resolve_left
    (Text.pieces_ne_nil '.' key)
  rw [List.concat_eq_append] at cut
  rw [lastPiece_of_pieces cut]
  rw [cut] at joined
  cases front with
  | nil => exact .inl joined
  | cons first others =>
      rw [Text.joinPieces_append (List.cons_ne_nil first others) (List.cons_ne_nil last [])] at joined
      exact .inr ⟨_, joined.symm⟩

theorem lastPiece_clean (key : List Char) : '.' ∉ lastPiece key := by
  obtain ⟨front, last, cut⟩ := (List.eq_nil_or_concat (Text.pieces '.' key)).resolve_left
    (Text.pieces_ne_nil '.' key)
  rw [List.concat_eq_append] at cut
  rw [lastPiece_of_pieces cut]
  exact Text.separator_not_mem_pieces (cut ▸ List.mem_append_right front List.mem_cons_self)

theorem lastPiece_within (key : List Char) : lastPiece key <:+: key := by
  rcases lastPiece_cases key with whole | ⟨front, split⟩
  · rw [whole]
  · have tail : '.' :: lastPiece key <:+ key := ⟨front, split.symm⟩
    exact ((List.suffix_cons '.' (lastPiece key)).trans tail).isInfix

/-! Where the text of a key stands -/

/-- The first statement that names a key has it in its own part of the path: the table that it stands
under has been led to before. -/
theorem key_mem_of_first {table path rest : List (List Char)} {key : List Char}
    {front back : List Placed} {value : Toml} {placed : Placed}
    (follows : Toml.Follows [] (front ++ placed :: back))
    (kind : placed.statement = .entry path value)
    (fresh : ∀ other ∈ front, key ∉ keysIn table other)
    (leads : placed.path = table ++ key :: rest) : key ∈ path := by
  have whole : placed.table ++ path = table ++ key :: rest := by
    rw [← leads, Placed.path, kind]
    rfl
  rcases List.append_eq_append_iff.mp whole with ⟨more, _, tail⟩ | ⟨more, under, tail⟩
  · rw [tail]
    exact List.mem_append_right more List.mem_cons_self
  · cases more with
    | nil =>
        rw [List.nil_append] at tail
        rw [← tail]
        exact List.mem_cons_self
    | cons next others =>
        obtain ⟨same, _⟩ := List.cons.inj tail
        rcases follows.leader with outermost | ⟨before, among, led⟩
        · rw [outermost] at under
          exact absurd (List.append_eq_nil_iff.mp under.symm).2 (List.cons_ne_nil next others)
        · have names : key ∈ keysIn table before :=
            mem_keysIn.mpr (.inl ⟨others, by rw [led, under, same]⟩)
          exact absurd names (fresh before among)

/-- The statement that a key is written with names the key itself. -/
theorem named_by_writer {table : List (List Char)} {key : List Char} {own : Placed}
    (follows : Toml.Follows [] placed) (writes : writer? placed table key = some own)
    (real : key ≠ momentKey) : key ∈ own.statement.ownKeys := by
  rcases Option.or_eq_some_iff.mp writes with header | ⟨_, first⟩
  · have opens : isHeaderOf (table ++ [key]) own = true := List.find?_some header
    unfold isHeaderOf at opens
    split at opens
    · rename_i path kind
      rw [kind, Toml.Statement.ownKeys, of_decide_eq_true opens]
      exact List.mem_append_right table (List.mem_singleton.mpr rfl)
    · cases opens
  · obtain ⟨names, front, back, split, fresh⟩ := List.find?_eq_some_iff_append.mp first
    have unnamed : ∀ other ∈ front, key ∉ keysIn table other := by
      intro other among
      simpa using fresh other among
    rw [split] at follows
    have headed : ∀ rest, own.path = table ++ key :: rest → key ∈ own.path := by
      intro rest path
      rw [path]
      exact List.mem_append_right table List.mem_cons_self
    rcases mem_keysIn.mp (List.contains_iff_mem.mp names) with ⟨rest, path⟩ | ⟨path, inner⟩
    · have among := headed rest path
      cases kind : own.statement with
      | table path => rw [Placed.path, kind] at among; exact among
      | tables path => rw [Placed.path, kind] at among; exact among
      | entry own' value =>
          exact List.mem_append_left _ (key_mem_of_first follows kind unnamed path)
    · cases kind : own.statement with
      | table path => rw [kind] at inner; cases inner
      | tables path => rw [kind] at inner; cases inner
      | entry own' value =>
          rw [kind] at inner
          refine List.mem_append_right own' ?_
          cases value with
          | table origin members => exact inner
          | moment => exact absurd (List.mem_singleton.mp inner) real
          | _ => cases inner

/-- The statement that a key is written with stands on one line and without escapes. -/
def Plain (placed : List Placed) (place : KeyPlace) : Prop :=
  place.key ≠ momentKey ∧ ∀ own, writer? placed place.table place.key = some own →
    '\n' ∉ own.text ∧ '\\' ∉ own.text

theorem holds_of_plain (lays : Toml.Lays 1 [] (Toml.unifyBreaks (Toml.dropByteOrder content)) placed)
    (member : place ∈ unknownPlaces placed) (plain : Plain placed place) :
    Holds content place.key place.line := by
  obtain ⟨own, writes, line⟩ := writer?_of_outline (mem_unknownPlaces.mp member).2
  obtain ⟨flat, unescaped⟩ := plain.2 own writes
  have among := (writer?_mem writes).1
  obtain ⟨index, row, number, listed, inside⟩ := lays.line_holds among flat
  have spelled := lays.spelled among unescaped place.key
    (named_by_writer lays.follows writes plain.1)
  exact ⟨index, row, by rw [← line, number], listed, spelled.trans inside⟩

/-! What a file is remarked on -/

/-- The places are those of the unknown keys that statements name, each once, with the line of the
statement that the key is written with. -/
structure Reports (placed : List Placed) (places : List KeyPlace) : Prop where
  once : places.Pairwise fun a b => (a.table, a.key) ≠ (b.table, b.key)
  complete : ∀ table key, (∃ line, ⟨table, key, line⟩ ∈ places) ↔
    Unknown table key ∧ ∃ own ∈ placed, key ∈ keysIn table own
  written : ∀ place ∈ places, ∃ own, writer? placed place.table place.key = some own ∧
    own.line = place.line
  ordered : places.Pairwise (Before placed)
  ascending : Unbroken placed → places.Pairwise (·.line ≤ ·.line)

/-- A remark on the key of a place. -/
structure Points (file : FilePath) (content : List Char) (placed : List Placed) (place : KeyPlace)
    (warning : Warning) : Prop where
  file : warning.file = file
  name : warning.key.toList = place.key ∨ ∃ front, place.key = front ++ '.' :: warning.key.toList
  dotless : '.' ∉ warning.key.toList
  line : ∀ line, warning.line = some line ↔ Holds content warning.key.toList line ∧
    ∀ earlier < line, ¬ Holds content warning.key.toList earlier
  near : Plain placed place → ∃ line ≤ place.line, warning.line = some line
  exact : Plain placed place → (warning.line = some place.line ↔
    ∀ earlier < place.line, ¬ Holds content warning.key.toList earlier)

theorem unknownPlaces_reports {members : Members} (outlines : Outlines placed members)
    (ascending : placed.Pairwise (·.line < ·.line)) : Reports placed (unknownPlaces placed) := by
  refine ⟨unknownPlaces_nodup, fun table key => ?_, fun place member => ?_,
    unknownPlaces_ordered ascending, unknownPlaces_ascending outlines.moves ascending⟩
  · rw [← mem_outline_iff]
    constructor
    · intro found
      obtain ⟨line, member⟩ := found
      obtain ⟨unknown, noted⟩ := mem_unknownPlaces.mp member
      exact ⟨unknown, List.mem_map.mpr ⟨(key, line), noted, rfl⟩⟩
    · intro found
      obtain ⟨unknown, named⟩ := found
      obtain ⟨⟨_, line⟩, noted, same⟩ := List.mem_map.mp named
      cases same
      exact ⟨line, mem_unknownPlaces.mpr ⟨unknown, noted⟩⟩
  · exact writer?_of_outline (mem_unknownPlaces.mp member).2

theorem warningFor_points (file : FilePath)
    (lays : Toml.Lays 1 [] (Toml.unifyBreaks (Toml.dropByteOrder content)) placed)
    (member : place ∈ unknownPlaces placed) :
    Points file content placed place (warningFor file content place.key) := by
  have name : (warningFor file content place.key).key.toList = lastPiece place.key :=
    String.toList_ofList
  have holds (plain : Plain placed place) : Holds content (lastPiece place.key) place.line :=
    (holds_of_plain lays member plain).narrow (lastPiece_within place.key)
  constructor
  · rfl
  · rw [name]
    exact lastPiece_cases place.key
  · rw [name]
    exact lastPiece_clean place.key
  · intro line
    rw [name]
    exact lineHolding?_eq_some
  · exact fun plain => (holds plain).first
  · intro plain
    rw [name]
    constructor
    · exact fun same => (lineHolding?_eq_some.mp same).2
    · exact fun first => lineHolding?_eq_some.mpr ⟨holds plain, first⟩

/-- Settings that load come with one remark for each unknown key, none for any other, in the order of
the tables and of the lines in them; each names the key by what follows its last dot, with the first
line that holds that text. -/
theorem loadWithWarnings_reports {disk : Disk} {file : FilePath} {config : Config}
    {warnings : List Warning} (loaded : loadWithWarnings disk file = .ok (config, warnings)) :
    ∃ content placed places, disk.readText file = .ok content ∧
      Toml.Lays 1 [] (Toml.unifyBreaks (Toml.dropByteOrder content.toList)) placed ∧
      Reports placed places ∧
      List.Forall₂ (Points file content.toList placed) places warnings := by
  unfold loadWithWarnings at loaded
  split at loaded
  · cases loaded
  · rename_i content read
    split at loaded
    · cases loaded
    · rename_i settings keys given
      cases loaded
      unfold ofText? at given
      split at given
      · cases given
      · rename_i members built
        obtain ⟨_, meant, same⟩ := Option.map_eq_some_iff.mp given
        cases same
        obtain ⟨placed, lays, outlines⟩ := outlines_of_read built
        have keys : unknownKeys members = (unknownPlaces placed).map KeyPlace.key :=
          unknownKeys_eq (Toml.read?_distinct built) outlines meant
        refine ⟨content, placed, unknownPlaces placed, read, lays,
          unknownPlaces_reports outlines lays.ascending, ?_⟩
        rw [keys, List.map_map]
        refine List.forall₂_map_right_iff.mpr (List.forall₂_same.mpr fun place member => ?_)
        exact warningFor_points file lays member

/-! A comment may name the key that is misspelt below it. -/

theorem readStatement?_entry {text rest after : List Char} {path : List (List Char)} {value : Toml}
    (plain : text.head? ≠ some '[') (named : Toml.readKey? text = some (path, '=' :: rest))
    (given : Toml.readValue? (2 * rest.length + 1) Toml.depthLimit (Toml.skipBlanks rest) =
      some (value, after)) :
    Toml.readStatement? text = some (.entry path value, after) := by
  unfold Toml.readStatement?
  split
  · exact absurd rfl plain
  · exact absurd rfl plain
  · rw [named]
    simp only [given, Option.map_some]

theorem readValue?_literal {fuel depth : Nat} {text quoted after : List Char}
    (opens : text.head? = some '\'') (read : Toml.readText? text = some (quoted, after)) :
    Toml.readValue? (fuel + 1) depth text = some (.string quoted, after) := by
  cases text with
  | nil => cases opens
  | cons c rest =>
      cases opens
      simp only [Toml.readValue?, read, Option.map_some]

def misspelt : String :=
  "# language_idx is spelled wrongly\nlanguage_idx = 'css'\n"

def misspeltDisk : Disk :=
  ⟨[], [([['c']], .file (.text misspelt))]⟩

theorem misspelt_loads :
    loadWithWarnings misspeltDisk (.ofText "c") =
      .ok ({}, [⟨"language_idx", .ofText "c", some 1, some "language_id"⟩]) := by
  decide +kernel

theorem misspelt_reported :
    let file : FilePath := .ofText "c"
    let warning : Warning := ⟨"language_idx", file, some 1, some "language_id"⟩
    loadWithWarnings misspeltDisk file = .ok ({}, [warning]) ∧
      ∃ content placed places, misspeltDisk.readText file = .ok content ∧
        Toml.Lays 1 [] (Toml.unifyBreaks (Toml.dropByteOrder content.toList)) placed ∧
        Reports placed places ∧
        List.Forall₂ (Points file content.toList placed) places [warning] := by
  intro file warning
  exact ⟨misspelt_loads, loadWithWarnings_reports misspelt_loads⟩

/-- The key stands on the second line, and the remark on it has the first. -/
theorem misspelt_remark_on_comment :
    let own : Placed := ⟨2, "language_idx = 'css'".toList, [],
      .entry ["language_idx".toList] (.string "css".toList)⟩
    Toml.Lays 1 [] (Toml.unifyBreaks (Toml.dropByteOrder misspelt.toList)) [own] ∧
      writer? [own] [] "language_idx".toList = some own ∧
      misspeltDisk.readText (.ofText "c") = .ok misspelt ∧
      loadWithWarnings misspeltDisk (.ofText "c") =
        .ok ({}, [⟨"language_idx", .ofText "c", some 1, some "language_id"⟩]) := by
  intro own
  have opened : Toml.skipBlanks (Toml.unifyBreaks (Toml.dropByteOrder misspelt.toList)) =
      '#' :: " language_idx is spelled wrongly\nlanguage_idx = 'css'\n".toList := by decide +kernel
  have dropped :
      Toml.dropComment? " language_idx is spelled wrongly\nlanguage_idx = 'css'\n".toList =
        some "\nlanguage_idx = 'css'\n".toList := by decide +kernel
  have ended : Toml.skipBlanks "\nlanguage_idx = 'css'\n".toList =
      '\n' :: "language_idx = 'css'\n".toList := by decide +kernel
  have start : Toml.skipBlanks "language_idx = 'css'\n".toList = own.text ++ ['\n'] := by
    decide +kernel
  have named : Toml.readKey? (own.text ++ ['\n']) =
      some (["language_idx".toList], '=' :: " 'css'\n".toList) := by decide +kernel
  have quoted : Toml.readText? (Toml.skipBlanks " 'css'\n".toList) =
      some ("css".toList, ['\n']) := by decide +kernel
  have read : Toml.readStatement? (own.text ++ ['\n']) = some (own.statement, ['\n']) :=
    readStatement?_entry (by decide +kernel) named (readValue?_literal (by decide +kernel) quoted)
  have lays : Toml.Lays 1 [] (Toml.unifyBreaks (Toml.dropByteOrder misspelt.toList)) [own] :=
    .comment opened dropped (.blank ended (.statement start read rfl (.done rfl)))
  have names : (keysIn [] own).contains "language_idx".toList = true := by decide +kernel
  have written : writer? [own] [] "language_idx".toList = some own := by
    simp only [writer?, List.reverse_singleton, List.find?_singleton, names, if_true]
    rfl
  exact ⟨lays, written, by decide +kernel, misspelt_loads⟩

end LiveSelector.Config
