import LiveSelector.Proofs.Config.Outline

namespace LiveSelector.Config

/-! The outline of a document lists the keys of the tables that it builds: those of the document and
those of each section, in their order.  A section that is an array of tables has no keys of its own;
it stays one, and no settings are read from it. -/

open Toml (Placed Statement Members Ending Puts IsRow find? settle)

/-- The keys of a section of a document, none if there is no such section. -/
def keysUnder (key : List Char) (members : Members) : List (List Char) :=
  ((find? key members).map keysOf).getD []

theorem keysUnder_of_find? {key : List Char} {members : Members} {value : Toml}
    (found : find? key members = some value) : keysUnder key members = keysOf value := by
  rw [keysUnder, found]
  rfl

theorem keysUnder_of_missing {key : List Char} {members : Members}
    (missing : find? key members = none) : keysUnder key members = [] := by
  rw [keysUnder, missing]
  rfl

/-- A statement of a document that can be read: its value names no key twice in a table, and arrays
of tables come from headers only. -/
structure Sound (statement : Statement) : Prop where
  distinct : statement.Distinct
  noRow : ∀ path value, statement = .entry path value → ∀ items, value ≠ .tables items

theorem sound_of_read {text rest : List Char} {statement : Statement}
    (read : Toml.readStatement? text = some (statement, rest)) : Sound statement := by
  refine ⟨Toml.readStatement?_distinct read, fun path value entry items => ?_⟩
  rw [entry] at read
  unfold Toml.readStatement? at read
  split at read
  · split at read <;> cases read
  · split at read <;> cases read
  · split at read
    · obtain ⟨⟨inner, after⟩, named, same⟩ := Option.map_eq_some_iff.mp read
      cases same
      exact Toml.readValue?_ne_tables named items
    · cases read

theorem keysOf_nodup {value : Toml} (distinct : value.Distinct) : (keysOf value).Nodup := by
  cases distinct with
  | table keys each => exact keys
  | moment => exact List.nodup_singleton _
  | _ => exact List.nodup_nil

/-! One statement -/

section

variable {placed : Placed} {key : List Char} {rest table : List (List Char)}

theorem isHeaderOf_eq (path : placed.path = table ++ key :: rest) :
    isHeaderOf (table ++ [key]) placed = (placed.statement.ending.isHeader && rest.isEmpty) := by
  unfold isHeaderOf
  cases header : placed.statement with
  | table own =>
      have same : own = table ++ key :: rest := by
        rw [Placed.path, header] at path
        exact path
      cases rest <;> simp [same, Statement.ending, Ending.isHeader]
  | tables own => rfl
  | entry own value => rfl

theorem keysIn_eq (path : placed.path = table ++ key :: rest) : keysIn table placed = [key] := by
  rw [keysIn, below?_eq_some.mpr path]

theorem keysIn_self (path : placed.path = table) :
    keysIn table placed = innerKeys placed.statement := by
  rw [keysIn, below?_eq_some.mpr (path.trans (List.append_nil table).symm)]

theorem keysIn_ne {other : List Char} (path : placed.path = key :: rest) (differs : other ≠ key) :
    keysIn [other] placed = [] := by
  simp [keysIn, path, below?, differs]

/-- A statement settles one key of the document. -/
theorem note_document {before after : Members} {noted : List (List Char × Nat)}
    (puts : Puts placed.statement.ending placed.path before after)
    (same : before.map Prod.fst = noted.map Prod.fst) :
    after.map Prod.fst = (note [] noted placed).map Prod.fst := by
  obtain ⟨key, rest, path⟩ := List.exists_cons_of_ne_nil puts.path_ne_nil
  have nested : placed.path = [] ++ key :: rest := path
  rw [path] at puts
  rw [note, map_settleAll, keysIn_eq nested, puts.keys, same, List.foldl_cons, List.foldl_nil,
    isHeaderOf_eq nested]

/-- A section is an array of tables, or its keys are those that have been noted. -/
inductive Tells (key : List Char) (members : Members) (noted : List (List Char × Nat)) : Prop where
  | row {value : Toml} (found : find? key members = some value) (row : IsRow value)
  | keys (noRow : ∀ items, find? key members ≠ some (.tables items))
      (same : keysUnder key members = noted.map Prod.fst)

theorem foldl_settle_nodup {keys names : List (List Char)} {brought : List Char → Bool}
    (distinct : (names ++ keys).Nodup) :
    keys.foldl (fun names key => settle id (brought key) key names) names = names ++ keys := by
  induction keys generalizing names with
  | nil => simp
  | cons key rest ih =>
      have split : (names ++ [key] ++ rest).Nodup := by simpa using distinct
      have missing : id key ∉ names.map id := by
        have apart := List.nodup_append.mp (List.nodup_append.mp split).1
        rw [List.map_id]
        exact fun member => apart.2.2 key member key (List.mem_singleton.mpr rfl) rfl
      rw [List.foldl_cons, Toml.settle_of_missing missing, ih split, List.append_assoc]
      rfl

theorem note_innerKeys {noted : List (List Char × Nat)} (path : placed.path = [key])
    (distinct : (noted.map Prod.fst ++ innerKeys placed.statement).Nodup) :
    (note [key] noted placed).map Prod.fst = noted.map Prod.fst ++ innerKeys placed.statement := by
  rw [note, map_settleAll, keysIn_self path, foldl_settle_nodup distinct]

theorem note_nested {noted : List (List Char × Nat)} {next : List Char}
    (path : placed.path = key :: next :: rest) :
    (note [key] noted placed).map Prod.fst =
      settle id (placed.statement.ending.isHeader && rest.isEmpty) next (noted.map Prod.fst) := by
  have nested : placed.path = [key] ++ next :: rest := path
  rw [note, map_settleAll, keysIn_eq nested, List.foldl_cons, List.foldl_nil, isHeaderOf_eq nested]

theorem isRow_append {items more : List Toml} (row : IsRow (.tables items)) :
    IsRow (.tables (items ++ more)) := by
  obtain ⟨origin, members, others, same⟩ := row
  cases same
  exact ⟨origin, members, others ++ more, rfl⟩

variable {before after : Members} {noted : List (List Char × Nat)}

theorem Tells.names_of_missing (tells : Tells key before noted)
    (missing : find? key before = none) : noted.map Prod.fst = [] := by
  cases tells with
  | row found row => rw [missing] at found; cases found
  | keys noRow same => rw [← same, keysUnder_of_missing missing]

theorem Tells.names_of_table {origin : Toml.Origin} {inner : Members}
    (tells : Tells key before noted) (found : find? key before = some (.table origin inner)) :
    noted.map Prod.fst = inner.map Prod.fst := by
  cases tells with
  | row other row =>
      obtain ⟨_, _, _, shape⟩ := row
      rw [found, shape] at other
      cases other
  | keys noRow same => rw [← same, keysUnder_of_find? found, keysOf]

theorem Tells.isRow {items : List Toml} (tells : Tells key before noted)
    (found : find? key before = some (.tables items)) : IsRow (.tables items) := by
  cases tells with
  | row other row =>
      rw [found] at other
      cases other
      exact row
  | keys noRow same => exact absurd found (noRow items)

theorem tells_of_table {origin : Toml.Origin} {inner : Members}
    (found : find? key after = some (.table origin inner))
    (same : inner.map Prod.fst = noted.map Prod.fst) : Tells key after noted := by
  refine .keys (fun items other => ?_) ?_
  · rw [found] at other
    cases other
  · rw [keysUnder_of_find? found, keysOf, same]

/-- A section that a statement names for the first time has the keys that its value brings along. -/
theorem note_fresh_section (missing : find? key before = none) (path : placed.path = [key])
    (sound : Sound placed.statement) (tells : Tells key before noted) :
    Tells key (before ++ [(key, placed.statement.ending.fresh)]) (note [key] noted placed) := by
  have found : find? key (before ++ [(key, placed.statement.ending.fresh)]) =
      some placed.statement.ending.fresh := Toml.find?_append_self missing
  have none : noted.map Prod.fst = [] := tells.names_of_missing missing
  have names : (innerKeys placed.statement).Nodup →
      (note [key] noted placed).map Prod.fst = innerKeys placed.statement := by
    intro distinct
    have apart : (noted.map Prod.fst ++ innerKeys placed.statement).Nodup := by
      rw [none]
      exact distinct
    rw [note_innerKeys path apart, none, List.nil_append]
  cases kind : placed.statement with
  | table own =>
      rw [kind] at found names
      exact tells_of_table found (names List.nodup_nil).symm
  | tables own =>
      rw [kind] at found
      exact .row found ⟨.header, [], [], rfl⟩
  | entry own value =>
      rw [kind] at found names sound
      refine .keys (fun items other => ?_) ?_
      · rw [found] at other
        exact sound.noRow own value rfl items (Option.some.inj other)
      · rw [keysUnder_of_find? found]
        exact (names (keysOf_nodup sound.distinct)).symm

/-- What a statement does to a section. -/
theorem note_section (puts : Puts placed.statement.ending placed.path before after)
    (sound : Sound placed.statement) (tells : Tells key before noted) :
    Tells key after (note [key] noted placed) := by
  obtain ⟨first, rest, path⟩ := List.exists_cons_of_ne_nil puts.path_ne_nil
  rw [path] at puts
  by_cases own : key = first
  · subst own
    cases puts with
    | fresh missing => exact note_fresh_section missing path sound tells
    | @opened _ _ inner header found =>
        have bare : innerKeys placed.statement = [] := by
          cases kind : placed.statement with
          | table own => rfl
          | tables own => rfl
          | entry own value => rw [kind] at header; cases header
        have same : noted.map Prod.fst = inner.map Prod.fst := tells.names_of_table found
        refine tells_of_table (Toml.find?_append_self Toml.find?_remove) ?_
        rw [note, keysIn_self path, bare, ← same]
        rfl
    | another row found =>
        have member := Toml.key_mem_of_find? found
        exact .row (Toml.find?_replace_self member) (isRow_append (tells.isRow found))
    | @made _ _ _ inner origin missing inside =>
        obtain ⟨next, others, tail⟩ := List.exists_cons_of_ne_nil inside.path_ne_nil
        rw [tail] at path inside
        refine tells_of_table (Toml.find?_append_self missing) ?_
        rw [note_nested path, tells.names_of_missing missing, inside.keys]
        rfl
    | @into _ _ _ inner changed origin found inside =>
        obtain ⟨next, others, tail⟩ := List.exists_cons_of_ne_nil inside.path_ne_nil
        rw [tail] at path inside
        refine tells_of_table (Toml.find?_replace_self (Toml.key_mem_of_find? found)) ?_
        rw [note_nested path, tells.names_of_table found, inside.keys]
    | intoLast found row =>
        have member := Toml.key_mem_of_find? found
        exact .row (Toml.find?_replace_self member) (row (tells.isRow found))
  · have left : find? key after = find? key before := puts.find?_ne own
    have nothing : note [key] noted placed = noted := by
      rw [note, keysIn_ne path own]
      rfl
    rw [nothing]
    cases tells with
    | row found row => exact .row (left.trans found) row
    | keys noRow same =>
        refine .keys (fun items => left.symm ▸ noRow items) ?_
        rw [keysUnder, left]
        exact same

end

/-! A whole document -/

/-- What each statement keeps between a table of a draft and its outline, a document keeps. -/
theorem run_outline {table current : List (List Char)} {placed : List Placed}
    (holds : Members → List (List Char × Nat) → Prop) {draft last : Toml.Draft}
    {noted : List (List Char × Nat)}
    (step : ∀ own ∈ placed, ∀ before after noted,
      Puts own.statement.ending own.path before after → holds before noted →
        holds after (note table noted own))
    (follows : Toml.Follows current placed) (start : draft.current = current)
    (run : (placed.map Placed.statement).foldlM Toml.Draft.add draft = some last)
    (initial : holds draft.members noted) :
    holds last.members (placed.foldl (note table) noted) := by
  induction follows generalizing draft noted with
  | nil =>
      cases run
      exact initial
  | @cons first rest later ih =>
      rw [List.map_cons, List.foldlM_cons] at run
      obtain ⟨next, added, more⟩ := Option.bind_eq_some_iff.mp run
      obtain ⟨puts, follows⟩ := Toml.add_puts added
      rw [start] at puts follows
      have now := step first List.mem_cons_self draft.members next.members noted puts initial
      exact ih (fun own member => step own (List.mem_cons_of_mem _ member)) follows more now

theorem run_moves {current : List (List Char)} {placed : List Placed} {draft last : Toml.Draft}
    (follows : Toml.Follows current placed) (start : draft.current = current)
    (run : (placed.map Placed.statement).foldlM Toml.Draft.add draft = some last) :
    ∀ own ∈ placed, own.path ≠ [] := by
  induction follows generalizing draft with
  | nil => exact fun own none => by cases none
  | @cons first rest later ih =>
      rw [List.map_cons, List.foldlM_cons] at run
      obtain ⟨next, added, more⟩ := Option.bind_eq_some_iff.mp run
      obtain ⟨puts, follows⟩ := Toml.add_puts added
      rw [start] at puts follows
      intro own member
      rcases List.mem_cons.mp member with here | there
      · rw [here]
        exact puts.path_ne_nil
      · exact ih follows more own there

/-- The members of a document and the keys that its outline lists. -/
structure Outlines (placed : List Placed) (members : Members) : Prop where
  moves : ∀ own ∈ placed, own.path ≠ []
  document : members.map Prod.fst = (outline [] placed).map Prod.fst
  sections : ∀ key, Tells key members (outline [key] placed)

theorem outlines_of_read {content : List Char} {members : Members}
    (read : Toml.read? content = some members) :
    ∃ placed, Toml.Lays 1 [] (Toml.unifyBreaks (Toml.dropByteOrder content)) placed ∧
      Outlines placed members := by
  unfold Toml.read? at read
  simp only at read
  split at read
  · rename_i statements listed
    obtain ⟨placed, lays, same⟩ := Toml.readStatements?_lays listed 1 []
    obtain ⟨draft, run, built⟩ := Option.map_eq_some_iff.mp read
    rw [← same] at run
    rw [← built]
    have sound : ∀ own ∈ placed, Sound own.statement := by
      intro own member
      obtain ⟨_, _, _, _, taken⟩ := lays.located own member
      exact sound_of_read taken
    refine ⟨placed, lays, run_moves lays.follows rfl run, ?_, fun key => ?_⟩
    · refine run_outline (fun members noted => members.map Prod.fst = noted.map Prod.fst) ?_
        lays.follows rfl run rfl
      exact fun _ _ _ _ _ puts => note_document puts
    · have start : Tells key [] [] := .keys (fun items same => by cases same) rfl
      refine run_outline (Tells key) ?_ lays.follows rfl run start
      exact fun own member _ _ _ puts => note_section puts (sound own member)
  · cases read

end LiveSelector.Config
