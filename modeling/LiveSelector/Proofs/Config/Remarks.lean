import LiveSelector.Proofs.Config.Outlined

namespace LiveSelector.Config

/-! Where the unknown keys of a settings file stand.  They are those of the document that are neither
settings nor sections, and those of a section that are none of its settings; a table that is not
known counts as one key.  They come in the order of the document's keys, those of a section all in
the place of the section, so that a section whose statements stand apart is out of line. -/

open Toml (Placed Members find?)

/-- The settings of a section. -/
def settingsOf? (name : List Char) : Option (List (List Char)) :=
  if name = fetchKey then some [timeoutKey, userAgentKey]
  else if name = logKey then some [levelKey]
  else none

/-- The keys that are not known, by the table in which they stand. -/
inductive Unknown : List (List Char) → List Char → Prop where
  | top {key : List Char} (single : settingsOf? key = none)
      (unknown : key ∉ [languageKey, suffixKey, limitKey]) : Unknown [] key
  | inside {name key : List Char} {settings : List (List Char)}
      (known : settingsOf? name = some settings) (unknown : key ∉ settings) : Unknown [name] key

/-- A key of a table with the line on which it is written. -/
structure KeyPlace where
  table : List (List Char)
  key : List Char
  line : Nat

/-- The key of the document that a place belongs to. -/
def KeyPlace.top (place : KeyPlace) : List Char :=
  place.table.headD place.key

/-- The places of the unknown keys that a key of the document accounts for. -/
def placesUnder (placed : List Placed) (entry : List Char × Nat) : List KeyPlace :=
  match settingsOf? entry.1 with
  | some settings =>
    ((outline [entry.1] placed).filter fun inner => !settings.contains inner.1).map
      fun inner => ⟨[entry.1], inner.1, inner.2⟩
  | none =>
    if [languageKey, suffixKey, limitKey].contains entry.1 then [] else [⟨[], entry.1, entry.2⟩]

/-- The places of the unknown keys of a document. -/
def unknownPlaces (placed : List Placed) : List KeyPlace :=
  (outline [] placed).flatMap (placesUnder placed)

variable {placed : List Placed} {place : KeyPlace} {entry : List Char × Nat}

theorem mem_placesUnder_section {settings : List (List Char)}
    (known : settingsOf? entry.1 = some settings) :
    place ∈ placesUnder placed entry ↔ place.table = [entry.1] ∧ place.key ∉ settings ∧
      (place.key, place.line) ∈ outline [entry.1] placed := by
  obtain ⟨table, key, line⟩ := place
  simp only [placesUnder, known, List.mem_map, List.mem_filter, List.contains_eq_mem,
    Bool.not_eq_true', decide_eq_false_iff_not, KeyPlace.mk.injEq, Prod.exists]
  constructor
  · intro found
    obtain ⟨name, number, ⟨member, unknown⟩, same, rfl, rfl⟩ := found
    exact ⟨same.symm, unknown, member⟩
  · intro found
    obtain ⟨same, unknown, member⟩ := found
    exact ⟨key, line, ⟨member, unknown⟩, same.symm, rfl, rfl⟩

theorem mem_placesUnder_single (single : settingsOf? entry.1 = none) :
    place ∈ placesUnder placed entry ↔
      entry.1 ∉ [languageKey, suffixKey, limitKey] ∧ place = ⟨[], entry.1, entry.2⟩ := by
  simp only [placesUnder, single]
  split
  · rename_i known
    have among := List.contains_iff_mem.mp known
    constructor
    · exact fun member => by cases member
    · exact fun unknown => absurd among unknown.1
  · rename_i unknown
    rw [List.contains_iff_mem] at unknown
    rw [List.mem_singleton]
    exact ⟨fun same => ⟨unknown, same⟩, fun both => both.2⟩

/-- What a key of the document accounts for belongs to it. -/
theorem top_of_mem (member : place ∈ placesUnder placed entry) : place.top = entry.1 := by
  cases known : settingsOf? entry.1 with
  | some settings =>
      rw [KeyPlace.top, ((mem_placesUnder_section known).mp member).1, List.headD_cons]
  | none =>
      rw [((mem_placesUnder_single known).mp member).2]
      rfl

/-- The places are those of the unknown keys that the outlines list. -/
theorem mem_unknownPlaces :
    place ∈ unknownPlaces placed ↔
      Unknown place.table place.key ∧ (place.key, place.line) ∈ outline place.table placed := by
  rw [unknownPlaces, List.mem_flatMap]
  constructor
  · intro found
    obtain ⟨entry, among, member⟩ := found
    cases known : settingsOf? entry.1 with
    | some settings =>
        obtain ⟨table, unknown, noted⟩ := (mem_placesUnder_section known).mp member
        rw [table]
        exact ⟨.inside known unknown, noted⟩
    | none =>
        obtain ⟨unknown, same⟩ := (mem_placesUnder_single known).mp member
        rw [same]
        exact ⟨.top known unknown, among⟩
  · intro found
    obtain ⟨table, key, line⟩ := place
    obtain ⟨unknown, noted⟩ := found
    cases unknown with
    | top single unknown =>
        exact ⟨(key, line), noted, (mem_placesUnder_single single).mpr ⟨unknown, rfl⟩⟩
    | @inside name _ settings known unknown =>
        -- A statement that names a key of the section names the section.
        obtain ⟨own, among, names⟩ := mem_outline_iff.mp (List.mem_map.mpr ⟨_, noted, rfl⟩)
        have leads : name ∈ keysIn [] own := by
          rcases mem_keysIn.mp names with ⟨rest, path⟩ | ⟨path, _⟩
          · exact mem_keysIn.mpr (.inl ⟨key :: rest, path⟩)
          · exact mem_keysIn.mpr (.inl ⟨[], path⟩)
        have present := mem_outline_iff.mpr ⟨own, among, leads⟩
        obtain ⟨⟨other, number⟩, listed, same⟩ := List.mem_map.mp present
        cases same
        exact ⟨(other, number), listed, (mem_placesUnder_section known).mpr ⟨rfl, unknown, noted⟩⟩

theorem outline_apart (placed : List Toml.Placed) (table : List (List Char)) :
    (outline table placed).Pairwise (·.1 ≠ ·.1) :=
  List.pairwise_map.mp outline_nodup

/-- No unknown key has two places. -/
theorem unknownPlaces_nodup :
    (unknownPlaces placed).Pairwise fun a b => (a.table, a.key) ≠ (b.table, b.key) := by
  refine List.pairwise_flatMap.mpr
    ⟨fun entry _ => ?_, (outline_apart placed []).imp fun {one other} apart => ?_⟩
  · cases known : settingsOf? entry.1 with
    | some settings =>
        simp only [placesUnder, known]
        have apart := outline_apart placed [entry.1]
        refine List.pairwise_map.mpr ((apart.filter _).imp fun differs same => ?_)
        exact differs (congrArg Prod.snd same)
    | none =>
        simp only [placesUnder, known]
        split
        · exact .nil
        · exact List.pairwise_singleton _ _
  · intro a inOne b inOther same
    have tops : a.top = b.top := by
      obtain ⟨tables, keys⟩ := Prod.mk.inj same
      rw [KeyPlace.top, KeyPlace.top, tables, keys]
    rw [top_of_mem inOne, top_of_mem inOther] at tops
    exact apart tops

/-! The order of the places -/

/-- A place before another one: the keys of one section stand in the order of their lines, and those
of different keys of the document in the order of the lines of these keys. -/
inductive Before (placed : List Placed) (a b : KeyPlace) : Prop where
  | together (same : a.top = b.top) (ordered : a.line ≤ b.line)
  | apart (differ : a.top ≠ b.top) {one other : Placed} (left : writer? placed [] a.top = some one)
      (right : writer? placed [] b.top = some other) (ordered : one.line ≤ other.line)

theorem unknownPlaces_ordered (ascending : placed.Pairwise (·.line < ·.line)) :
    (unknownPlaces placed).Pairwise (Before placed) := by
  have rows : ∀ table, (outline table placed).Pairwise (·.2 ≤ ·.2) :=
    fun table => outline_ascending ascending
  refine List.pairwise_flatMap.mpr ⟨fun entry _ => ?_, ?_⟩
  · cases known : settingsOf? entry.1 with
    | some settings =>
        simp only [placesUnder, known]
        exact List.pairwise_map.mpr (((rows [entry.1]).filter _).imp fun ordered =>
          .together rfl ordered)
    | none =>
        simp only [placesUnder, known]
        split
        · exact .nil
        · exact List.pairwise_singleton _ _
  · have both := List.pairwise_and_iff.mpr ⟨outline_apart placed [], rows []⟩
    refine List.Pairwise.imp_of_mem (fun {one other} inOne inOther relation => ?_) both
    intro a inA b inB
    obtain ⟨first, writesFirst, firstLine⟩ := writer?_of_outline inOne
    obtain ⟨second, writesSecond, secondLine⟩ := writer?_of_outline inOther
    rw [← top_of_mem inA] at writesFirst
    rw [← top_of_mem inB] at writesSecond
    refine .apart ?_ writesFirst writesSecond ?_
    · rw [top_of_mem inA, top_of_mem inB]
      exact relation.1
    · rw [firstLine, secondLine]
      exact relation.2

/-- The statements of a section stand together. -/
def Unbroken (placed : List Placed) : Prop :=
  ∀ first ∈ placed, ∀ between ∈ placed, ∀ last ∈ placed, ∀ name settings,
    settingsOf? name = some settings → first.path.head? = some name → last.path.head? = some name →
      first.line ≤ between.line → between.line ≤ last.line → between.path.head? = some name

theorem head?_of_keysIn {table : List (List Char)} {key : List Char} {own : Placed}
    (names : key ∈ keysIn table own) (moves : own.path ≠ []) :
    own.path.head? = some (table.headD key) := by
  rcases mem_keysIn.mp names with ⟨rest, path⟩ | ⟨path, _⟩
  · rw [path]
    cases table <;> rfl
  · cases table with
    | nil => exact absurd path moves
    | cons first others => rw [path]; rfl

/-- The statements behind a place: the one that it is written with and the one that its key of the
document is written with, which is the same for a place outside the sections. -/
structure Written (placed : List Placed) (place : KeyPlace) (own top : Placed) : Prop where
  ownMem : own ∈ placed
  topMem : top ∈ placed
  line : own.line = place.line
  ownHead : own.path.head? = some place.top
  topHead : top.path.head? = some place.top
  single : own = top ∨ ∃ settings, settingsOf? place.top = some settings

theorem written_exists (moves : ∀ own ∈ placed, own.path ≠ [])
    (member : place ∈ unknownPlaces placed) {top : Placed}
    (writes : writer? placed [] place.top = some top) : ∃ own, Written placed place own top := by
  obtain ⟨unknown, noted⟩ := mem_unknownPlaces.mp member
  obtain ⟨own, writesOwn, line⟩ := writer?_of_outline noted
  obtain ⟨ownMem, names⟩ := writer?_mem writesOwn
  obtain ⟨topMem, namesTop⟩ := writer?_mem writes
  have topHead := head?_of_keysIn namesTop (moves top topMem)
  refine ⟨own, ownMem, topMem, line, head?_of_keysIn names (moves own ownMem), topHead, ?_⟩
  obtain ⟨table, key, number⟩ := place
  cases unknown with
  | top single unknown => exact .inl (Option.some.inj (writesOwn.symm.trans writes))
  | inside known unknown => exact .inr ⟨_, known⟩

/-- Where sections are not torn apart, the places stand in the order of the document. -/
theorem unknownPlaces_ascending (moves : ∀ own ∈ placed, own.path ≠ [])
    (ascending : placed.Pairwise (·.line < ·.line)) (unbroken : Unbroken placed) :
    (unknownPlaces placed).Pairwise (·.line ≤ ·.line) := by
  refine List.Pairwise.imp_of_mem (fun {a b} inA inB before => ?_) (unknownPlaces_ordered ascending)
  cases before with
  | together same ordered => exact ordered
  | @apart differ one other left right ordered =>
      obtain ⟨first, writtenA⟩ := written_exists moves inA left
      obtain ⟨second, writtenB⟩ := written_exists moves inB right
      have foreign : ∀ own : Placed, own.path.head? = some a.top → own.path.head? ≠ some b.top :=
        fun own mine yours => differ (Option.some.inj (mine.symm.trans yours))
      -- The key of the document that `b` belongs to is no part of the section of `a`.
      have ahead : first.line ≤ other.line := by
        rcases writtenA.single with same | ⟨settings, known⟩
        · rw [same]
          exact ordered
        · by_contra behind
          rw [Nat.not_le] at behind
          have part := unbroken one writtenA.topMem other writtenB.topMem first writtenA.ownMem
            a.top settings known writtenA.topHead writtenA.ownHead ordered (Nat.le_of_lt behind)
          exact foreign other part writtenB.topHead
      rw [← writtenA.line, ← writtenB.line]
      rcases writtenB.single with same | ⟨settings, known⟩
      · rw [same]
        exact ahead
      · by_contra behind
        rw [Nat.not_le] at behind
        have part := unbroken second writtenB.ownMem first writtenA.ownMem other writtenB.topMem
          b.top settings known writtenB.ownHead writtenB.topHead (Nat.le_of_lt behind) ahead
        exact foreign first writtenA.ownHead part

end LiveSelector.Config
