import LiveSelector.Toml.Reader
import Mathlib.Data.List.Nodup

namespace LiveSelector.Toml

/-! A document names a key once in each of its tables.  Building a table adds only keys that it does
not have, and a header that moves a table takes its key out before; so whatever the order of the
statements, looking a key up is being among the members. -/

/-- No table of a value names a key twice. -/
inductive Distinct : Toml → Prop where
  | string (text : List Char) : Distinct (.string text)
  | integer (number : Int) : Distinct (.integer number)
  | float : Distinct .float
  | boolean (flag : Bool) : Distinct (.boolean flag)
  | moment : Distinct .moment
  | array {items : List Toml} (each : ∀ item ∈ items, Distinct item) : Distinct (.array items)
  | tables {items : List Toml} (each : ∀ item ∈ items, Distinct item) : Distinct (.tables items)
  | table {origin : Origin} {members : Members} (keys : (members.map Prod.fst).Nodup)
      (each : ∀ member ∈ members, Distinct member.2) : Distinct (.table origin members)

structure DistinctMembers (members : Members) : Prop where
  keys : (members.map Prod.fst).Nodup
  each : ∀ member ∈ members, Distinct member.2

variable {key : List Char} {value : Toml} {members after : Members}

theorem distinct_table {origin : Origin} :
    Distinct (.table origin members) ↔ DistinctMembers members :=
  ⟨fun | .table keys each => ⟨keys, each⟩, fun distinct => .table distinct.keys distinct.each⟩

theorem find?_eq_none : find? key members = none ↔ key ∉ members.map Prod.fst := by
  simp only [find?, Option.map_eq_none_iff, List.find?_eq_none, List.mem_map, decide_eq_true_eq,
    not_exists, not_and]

theorem mem_of_find? (found : find? key members = some value) : (key, value) ∈ members := by
  obtain ⟨member, first, rfl⟩ := Option.map_eq_some_iff.mp found
  have same : member.1 = key := by simpa using List.find?_some first
  exact same ▸ List.mem_of_find?_eq_some first

theorem find?_eq_some (distinct : (members.map Prod.fst).Nodup) :
    find? key members = some value ↔ (key, value) ∈ members := by
  constructor
  · exact mem_of_find?
  · intro member
    induction members with
    | nil => cases member
    | cons first rest ih =>
        rw [List.map_cons, List.nodup_cons] at distinct
        rcases List.mem_cons.mp member with rfl | later
        · simp [find?]
        · have other : first.1 ≠ key := by
            rintro rfl
            exact distinct.1 (List.mem_map.mpr ⟨_, later, rfl⟩)
          simpa [find?, other] using ih distinct.2 later

theorem keys_replace : (replace key value members).map Prod.fst = members.map Prod.fst := by
  simp only [replace, List.map_map]
  refine List.map_congr_left fun member _ => ?_
  by_cases same : member.1 = key <;> simp [same]

namespace DistinctMembers

theorem nil : DistinctMembers [] :=
  ⟨List.nodup_nil, by simp⟩

theorem found (distinct : DistinctMembers members) (found : find? key members = some value) :
    value.Distinct :=
  distinct.each _ (mem_of_find? found)

theorem append (distinct : DistinctMembers members) (fresh : find? key members = none)
    (new : value.Distinct) : DistinctMembers (members ++ [(key, value)]) := by
  have absent := find?_eq_none.mp fresh
  constructor
  · rw [List.map_append]
    refine List.nodup_append.mpr ⟨distinct.keys, List.nodup_singleton _, ?_⟩
    rintro old oldKey _ newKey rfl
    have same : old = key := List.mem_singleton.mp newKey
    exact absent (same ▸ oldKey)
  · intro member among
    rcases List.mem_append.mp among with old | added
    · exact distinct.each member old
    · rw [List.mem_singleton.mp added]
      exact new

theorem replace (distinct : DistinctMembers members) (new : value.Distinct) :
    DistinctMembers (replace key value members) := by
  constructor
  · rw [keys_replace]
    exact distinct.keys
  · intro member among
    obtain ⟨old, oldMember, rfl⟩ := List.mem_map.mp among
    split
    · exact new
    · exact distinct.each old oldMember

theorem remove (distinct : DistinctMembers members) : DistinctMembers (remove key members) :=
  ⟨distinct.keys.sublist (List.filter_sublist.map _),
    fun member kept => distinct.each member (List.mem_of_mem_filter kept)⟩

end DistinctMembers

theorem find?_remove : find? key (remove key members) = none := by
  simp [find?_eq_none, remove]

/-! Building tables -/

/-- A change to the members of a table that leaves its keys distinct. -/
def Preserves (change : Members → Option Members) : Prop :=
  ∀ members after, DistinctMembers members → change members = some after → DistinctMembers after

theorem changeLast_distinct {change : Members → Option Members} (preserves : Preserves change)
    {items changed : List Toml} (distinct : ∀ item ∈ items, item.Distinct)
    (made : changeLast change items = some changed) : ∀ item ∈ changed, item.Distinct := by
  fun_induction changeLast change items generalizing changed with
  | case1 => cases made
  | case2 origin members after result =>
      cases made
      have before := distinct_table.mp (distinct (.table origin members) (by simp))
      simpa using distinct_table.mpr (preserves members after before result)
  | case3 => cases made
  | case4 => cases made
  | case5 item rest _ _ others result ih =>
      cases made
      have later := ih (fun item member => distinct item (List.mem_cons_of_mem _ member)) result
      simpa using And.intro (distinct item (by simp)) later
  | case6 => cases made

namespace DistinctMembers

variable {change : Members → Option Members}

theorem extend (distinct : DistinctMembers members) (preserves : Preserves change)
    (missing : find? key members = none) {origin : Origin} {inner : Members}
    (made : change [] = some inner) : DistinctMembers (members ++ [(key, .table origin inner)]) :=
  distinct.append missing (distinct_table.mpr (preserves [] inner .nil made))

theorem enter (distinct : DistinctMembers members) (preserves : Preserves change)
    {origin : Origin} {inner changed : Members}
    (found : find? key members = some (.table origin inner)) (made : change inner = some changed) :
    DistinctMembers (Toml.replace key (.table origin changed) members) := by
  have before : DistinctMembers inner := distinct_table.mp (distinct.found found)
  exact distinct.replace (distinct_table.mpr (preserves inner changed before made))

theorem enterLast (distinct : DistinctMembers members) (preserves : Preserves change)
    {items changed : List Toml} (found : find? key members = some (.tables items))
    (made : changeLast change items = some changed) :
    DistinctMembers (Toml.replace key (.tables changed) members) := by
  have .tables each := distinct.found found
  exact distinct.replace (.tables (changeLast_distinct preserves each made))

end DistinctMembers

/-- A value put under a dotted key goes into a table that does not have the key. -/
theorem putDotted_preserves (new : value.Distinct) (path : List (List Char)) (extensible : Bool) :
    Preserves (putDotted value extensible path) := by
  induction path generalizing extensible with
  | nil =>
      intro members after _ put
      simp [putDotted] at put
  | cons key rest ih =>
      intro members after distinct put
      cases rest with
      | nil =>
          simp only [putDotted] at put
          split at put
          · rename_i free
            cases put
            simp only [Bool.and_eq_true, Option.isNone_iff_eq_none] at free
            exact distinct.append free.2 new
          · cases put
      | cons next others =>
          simp only [putDotted] at put
          split at put
          · rename_i missing
            obtain ⟨inner, made, rfl⟩ := Option.map_eq_some_iff.mp put
            exact distinct.extend (ih true) missing made
          · rename_i inner found
            obtain ⟨changed, made, rfl⟩ := Option.map_eq_some_iff.mp put
            exact distinct.enter (ih true) found made
          · rename_i inner found
            obtain ⟨changed, made, rfl⟩ := Option.map_eq_some_iff.mp put
            exact distinct.enter (ih false) found made
          · rename_i items found
            obtain ⟨changed, made, rfl⟩ := Option.map_eq_some_iff.mp put
            exact distinct.enterLast (ih false) found made
          · cases put

theorem descend_preserves {change : Members → Option Members} (preserves : Preserves change)
    (way : List (List Char)) : Preserves (descend change way) := by
  induction way with
  | nil => exact preserves
  | cons key rest ih =>
      intro members after distinct made
      simp only [descend] at made
      split at made
      · rename_i missing
        obtain ⟨inner, opened, rfl⟩ := Option.map_eq_some_iff.mp made
        exact distinct.extend ih missing opened
      · cases made
      · rename_i origin inner _ found
        obtain ⟨changed, opened, rfl⟩ := Option.map_eq_some_iff.mp made
        exact distinct.enter ih found opened
      · rename_i items found
        obtain ⟨changed, opened, rfl⟩ := Option.map_eq_some_iff.mp made
        exact distinct.enterLast ih found opened
      · cases made

theorem openTable_preserves (key : List Char) : Preserves (openTable key) := by
  intro members after distinct opened
  unfold openTable at opened
  split at opened
  · rename_i missing
    cases opened
    exact distinct.append missing (distinct_table.mpr .nil)
  · rename_i inner found
    cases opened
    have before := distinct_table.mp (distinct.found found)
    exact distinct.remove.append find?_remove (distinct_table.mpr before)
  · cases opened

theorem addTable_preserves (key : List Char) : Preserves (addTable key) := by
  intro members after distinct added
  have empty : Distinct (.table .header []) := distinct_table.mpr .nil
  unfold addTable at added
  split at added
  · rename_i missing
    cases added
    exact distinct.append missing (.tables (by simpa using empty))
  · rename_i items found
    cases added
    have .tables each := distinct.found found
    refine distinct.replace (.tables fun item member => ?_)
    rcases List.mem_append.mp member with old | last
    · exact each item old
    · rw [List.mem_singleton.mp last]
      exact empty
  · cases added

def Statement.Distinct : Statement → Prop
  | .entry _ value => value.Distinct
  | _ => True

theorem add_distinct {draft next : Draft} {statement : Statement} (new : statement.Distinct)
    (distinct : DistinctMembers draft.members) (added : draft.add statement = some next) :
    DistinctMembers next.members := by
  cases statement with
  | table path =>
      simp only [Draft.add] at added
      split at added
      · obtain ⟨members, made, rfl⟩ := Option.map_eq_some_iff.mp added
        exact descend_preserves (openTable_preserves _) _ _ _ distinct made
      · cases added
  | tables path =>
      simp only [Draft.add] at added
      split at added
      · obtain ⟨members, made, rfl⟩ := Option.map_eq_some_iff.mp added
        exact descend_preserves (addTable_preserves _) _ _ _ distinct made
      · cases added
  | entry path value =>
      obtain ⟨members, made, rfl⟩ := Option.map_eq_some_iff.mp added
      exact descend_preserves (putDotted_preserves new path true) _ _ _ distinct made

/-- What every step of a partial fold keeps, the whole fold keeps. -/
theorem foldlM_invariant {α β : Type} {step : β → α → Option β} (holds : β → Prop)
    {items : List α} {start last : β}
    (each : ∀ item ∈ items, ∀ state next, holds state → step state item = some next → holds next)
    (initial : holds start) (run : items.foldlM step start = some last) : holds last := by
  induction items generalizing start with
  | nil =>
      cases run
      exact initial
  | cons item rest ih =>
      rw [List.foldlM_cons] at run
      obtain ⟨next, first, later⟩ := Option.bind_eq_some_iff.mp run
      exact ih (fun other member => each other (List.mem_cons_of_mem _ member))
        (each item (by simp) start next initial first) later

theorem ofStatements?_distinct {statements : List Statement}
    (each : ∀ statement ∈ statements, statement.Distinct)
    (built : ofStatements? statements = some members) : DistinctMembers members := by
  obtain ⟨draft, run, rfl⟩ := Option.map_eq_some_iff.mp built
  exact foldlM_invariant (fun draft => DistinctMembers draft.members)
    (fun statement member _ _ distinct added => add_distinct (each statement member) distinct added)
    .nil run

theorem inlineTable?_distinct {entries : List (List (List Char) × Toml)}
    (each : ∀ entry ∈ entries, entry.2.Distinct) (built : inlineTable? entries = some value) :
    value.Distinct := by
  obtain ⟨members, run, rfl⟩ := Option.map_eq_some_iff.mp built
  exact distinct_table.mpr (foldlM_invariant DistinctMembers
    (fun entry member => putDotted_preserves (each entry member) entry.1 true) .nil run)

/-! Reading -/

variable {text rest : List Char}

theorem readMoment?_value (read : readMoment? text = some (value, rest)) : value = .moment := by
  unfold readMoment? at read
  split at read
  · cases read
    rfl
  · obtain ⟨_, _, same⟩ := Option.map_eq_some_iff.mp read
    cases same
    rfl

theorem readDecimalFloat?_value (read : readDecimalFloat? text = some (value, rest)) :
    value = .float := by
  simp only [readDecimalFloat?, Option.bind_eq_bind, Option.bind_eq_some_iff] at read
  obtain ⟨_, _, _, _, _, _, read⟩ := read
  split at read
  · cases read
  · split at read
    · cases read
    · cases read
      rfl

theorem readNamedFloat?_value (read : readNamedFloat? text = some (value, rest)) :
    value = .float := by
  unfold readNamedFloat? at read
  split at read <;> cases read <;> rfl

theorem readBased?_value {base : Nat} {isDigit : Char → Bool}
    (read : readBased? base isDigit text = some (value, rest)) :
    ∃ number, value = .integer number := by
  unfold readBased? at read
  split at read
  · split at read <;> cases read
    exact ⟨_, rfl⟩
  · cases read

theorem readDecimal?_value (read : readDecimal? text = some (value, rest)) :
    ∃ number, value = .integer number := by
  unfold readDecimal? at read
  simp only at read
  split at read
  · split at read
    · split at read <;> cases read
      exact ⟨_, rfl⟩
    · split at read <;> cases read
      exact ⟨_, rfl⟩
  · cases read

theorem readInteger?_value (read : readInteger? text = some (value, rest)) :
    ∃ number, value = .integer number := by
  unfold readInteger? at read
  split at read
  all_goals first | exact readBased?_value read | exact readDecimal?_value read

theorem readNumeral?_value (read : readNumeral? text = some (value, rest)) :
    value = .moment ∨ value = .float ∨ ∃ number, value = .integer number := by
  simp only [readNumeral?, HOrElse.hOrElse, OrElse.orElse, Option.orElse_eq_or,
    Option.or_eq_some_iff] at read
  rcases read with moment | ⟨_, float | ⟨_, named | ⟨_, integer⟩⟩⟩
  · exact .inl (readMoment?_value moment)
  · exact .inr (.inl (readDecimalFloat?_value float))
  · exact .inr (.inl (readNamedFloat?_value named))
  · exact .inr (.inr (readInteger?_value integer))

theorem readNumeral?_distinct (read : readNumeral? text = some (value, rest)) : value.Distinct := by
  rcases readNumeral?_value read with rfl | rfl | ⟨number, rfl⟩
  · exact .moment
  · exact .float
  · exact .integer number

/-- What the readers of values, items and entries give with some fuel has distinct keys. -/
structure ReadsDistinct (fuel : Nat) : Prop where
  value : ∀ {depth text value rest}, readValue? fuel depth text = some (value, rest) →
    value.Distinct
  items : ∀ {depth text items rest}, readItems? fuel depth text = some (items, rest) →
    ∀ item ∈ items, item.Distinct
  entries : ∀ {depth text entries rest}, readEntries? fuel depth text = some (entries, rest) →
    ∀ entry ∈ entries, entry.2.Distinct

namespace ReadsDistinct

variable {fuel : Nat} (reads : ReadsDistinct fuel)

include reads

theorem next_value {depth : Nat} (read : readValue? (fuel + 1) depth text = some (value, rest)) :
    value.Distinct := by
  unfold readValue? at read
  split at read
  · obtain ⟨_, _, same⟩ := Option.map_eq_some_iff.mp read
    cases same
    exact .string _
  · obtain ⟨_, _, same⟩ := Option.map_eq_some_iff.mp read
    cases same
    exact .string _
  · split at read
    · cases read
    · obtain ⟨_, inner, same⟩ := Option.map_eq_some_iff.mp read
      cases same
      exact .array (reads.items inner)
  · split at read
    · cases read
    · split at read
      · cases read
        exact distinct_table.mpr .nil
      · split at read
        · rename_i inner
          obtain ⟨_, built, same⟩ := Option.map_eq_some_iff.mp read
          cases same
          exact inlineTable?_distinct (reads.entries inner) built
        · cases read
  · cases read
    exact .boolean _
  · cases read
    exact .boolean _
  · exact readNumeral?_distinct read

theorem next_items {depth : Nat} {items : List Toml}
    (read : readItems? (fuel + 1) depth text = some (items, rest)) :
    ∀ item ∈ items, item.Distinct := by
  unfold readItems? at read
  split at read
  · cases read
  · cases read
    simp
  · split at read
    · cases read
    · rename_i first
      have head := reads.value first
      split at read
      · split at read
        · rename_i more
          cases read
          simpa using And.intro head (reads.items more)
        · cases read
      · cases read
        simpa using head
      · cases read

theorem next_entries {depth : Nat} {entries : List (List (List Char) × Toml)}
    (read : readEntries? (fuel + 1) depth text = some (entries, rest)) :
    ∀ entry ∈ entries, entry.2.Distinct := by
  unfold readEntries? at read
  split at read
  · split at read
    · cases read
    · rename_i first
      have head := reads.value first
      split at read
      · split at read
        · rename_i more
          cases read
          simpa using And.intro head (reads.entries more)
        · cases read
      · cases read
        simpa using head
      · cases read
  · cases read

end ReadsDistinct

/-- Values, items and entries are read by one another, each with less fuel than the one before. -/
theorem readsDistinct (fuel : Nat) : ReadsDistinct fuel := by
  induction fuel with
  | zero => constructor <;> simp [readValue?, readItems?, readEntries?]
  | succ fuel reads => exact ⟨reads.next_value, reads.next_items, reads.next_entries⟩

theorem readStatement?_distinct {statement : Statement}
    (read : readStatement? text = some (statement, rest)) : statement.Distinct := by
  unfold readStatement? at read
  split at read
  · split at read <;> cases read
    trivial
  · split at read <;> cases read
    trivial
  · split at read
    · obtain ⟨_, inner, same⟩ := Option.map_eq_some_iff.mp read
      cases same
      exact (readsDistinct _).value inner
    · cases read

theorem readStatements?_distinct {count : Nat} {statements : List Statement}
    (read : readStatements? count text = some statements) :
    ∀ statement ∈ statements, statement.Distinct := by
  induction count generalizing text statements with
  | zero => cases read
  | succ count ih =>
      unfold readStatements? at read
      split at read
      · cases read
        simp
      · exact ih read
      · split at read
        · exact ih read
        · cases read
      · split at read
        · cases read
        · rename_i first
          split at read
          · cases read
          · obtain ⟨later, others, rfl⟩ := Option.map_eq_some_iff.mp read
            simpa using And.intro (readStatement?_distinct first) (ih others)

/-- In a document that a text spells, no table names a key twice. -/
theorem read?_distinct (read : read? text = some members) : DistinctMembers members := by
  unfold read? at read
  simp only at read
  split at read
  · rename_i statements listed
    exact ofStatements?_distinct (readStatements?_distinct listed) read
  · cases read

end LiveSelector.Toml
