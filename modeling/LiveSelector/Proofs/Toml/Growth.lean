import LiveSelector.Proofs.Toml.Distinct

namespace LiveSelector.Toml

/-! How a document grows.  Whatever its kind, a statement follows one path from the root: it enters
the tables on the way, makes those that are missing behind the others, and changes nothing beside
the path.  At the end it puts something new, or names by a header a table that was only passed
through, which then moves behind the others. -/

/-- What a statement puts at the end of its path. -/
inductive Ending where
  | header
  | row
  | value (value : Toml)

namespace Ending

def fresh : Ending → Toml
  | header => .table .header []
  | row => .tables [.table .header []]
  | .value new => new

def isHeader : Ending → Bool
  | header => true
  | _ => false

end Ending

/-- An array of tables that has a first one. -/
def IsRow (value : Toml) : Prop :=
  ∃ origin members others, value = .tables (.table origin members :: others)

/-- The members before and after something is put at the end of a path. -/
inductive Puts (ending : Ending) : List (List Char) → Members → Members → Prop where
  | fresh {key : List Char} {members : Members} (missing : find? key members = none) :
      Puts ending [key] members (members ++ [(key, ending.fresh)])
  | opened {key : List Char} {members inner : Members} (header : ending.isHeader = true)
      (found : find? key members = some (.table .implied inner)) :
      Puts ending [key] members (remove key members ++ [(key, .table .header inner)])
  | another {key : List Char} {members : Members} {items : List Toml}
      (row : ending.isHeader = false) (found : find? key members = some (.tables items)) :
      Puts ending [key] members (replace key (.tables (items ++ [.table .header []])) members)
  | made {key : List Char} {rest : List (List Char)} {members inner : Members} {origin : Origin}
      (missing : find? key members = none) (inside : Puts ending rest [] inner) :
      Puts ending (key :: rest) members (members ++ [(key, .table origin inner)])
  | into {key : List Char} {rest : List (List Char)} {members inner changed : Members}
      {origin : Origin} (found : find? key members = some (.table origin inner))
      (inside : Puts ending rest inner changed) :
      Puts ending (key :: rest) members (replace key (.table origin changed) members)
  | intoLast {key next : List Char} {rest : List (List Char)} {members : Members}
      {items changed : List Toml} (found : find? key members = some (.tables items))
      (row : IsRow (.tables items) → IsRow (.tables changed)) :
      Puts ending (key :: next :: rest) members (replace key (.tables changed) members)

theorem Puts.path_ne_nil {ending : Ending} {path : List (List Char)} {before after : Members}
    (puts : Puts ending path before after) : path ≠ [] := by
  cases puts <;> exact List.cons_ne_nil _ _

theorem changeLast_made {change : Members → Option Members} {items changed : List Toml}
    (made : changeLast change items = some changed) :
    ∃ members after, change members = some after := by
  fun_induction changeLast change items generalizing changed with
  | case1 => cases made
  | case2 origin members after result => exact ⟨members, after, result⟩
  | case3 => cases made
  | case4 => cases made
  | case5 item rest _ _ others result ih => exact ih result
  | case6 => cases made

theorem changeLast_isRow {change : Members → Option Members} {items changed : List Toml}
    (made : changeLast change items = some changed) (row : IsRow (.tables items)) :
    IsRow (.tables changed) := by
  obtain ⟨origin, members, others, same⟩ := row
  cases same
  cases others with
  | nil =>
      simp only [changeLast] at made
      split at made
      · cases made
        exact ⟨origin, _, [], rfl⟩
      · cases made
  | cons next others =>
      simp only [changeLast] at made
      split at made
      · cases made
        exact ⟨origin, members, _, rfl⟩
      · cases made

theorem putDotted_puts {value : Toml} {extensible : Bool} {path : List (List Char)}
    {members after : Members} (put : putDotted value extensible path members = some after) :
    Puts (.value value) path members after := by
  induction path generalizing extensible members after with
  | nil => simp [putDotted] at put
  | cons key rest ih =>
      cases rest with
      | nil =>
          simp only [putDotted] at put
          split at put
          · rename_i free
            cases put
            simp only [Bool.and_eq_true, Option.isNone_iff_eq_none] at free
            have put : Puts (.value value) [key] members (members ++ [(key, value)]) :=
              .fresh free.2
            exact put
          · cases put
      | cons next others =>
          simp only [putDotted] at put
          split at put
          · rename_i missing
            obtain ⟨inner, made, rfl⟩ := Option.map_eq_some_iff.mp put
            exact .made missing (ih made)
          · rename_i inner found
            obtain ⟨changed, made, rfl⟩ := Option.map_eq_some_iff.mp put
            exact .into found (ih made)
          · rename_i inner found
            obtain ⟨changed, made, rfl⟩ := Option.map_eq_some_iff.mp put
            exact .into found (ih made)
          · rename_i items found
            obtain ⟨changed, made, rfl⟩ := Option.map_eq_some_iff.mp put
            exact .intoLast found (changeLast_isRow made)
          · cases put

theorem openTable_puts {key : List Char} {members after : Members}
    (opened : openTable key members = some after) : Puts .header [key] members after := by
  unfold openTable at opened
  split at opened
  · rename_i missing
    cases opened
    have put : Puts .header [key] members (members ++ [(key, Ending.header.fresh)]) :=
      .fresh missing
    exact put
  · rename_i inner found
    cases opened
    exact .opened rfl found
  · cases opened

theorem addTable_puts {key : List Char} {members after : Members}
    (added : addTable key members = some after) : Puts .row [key] members after := by
  unfold addTable at added
  split at added
  · rename_i missing
    cases added
    have put : Puts .row [key] members (members ++ [(key, Ending.row.fresh)]) := .fresh missing
    exact put
  · rename_i items found
    cases added
    exact .another rfl found
  · cases added

/-- The change made at the end of the way goes on with the rest of the path. -/
theorem descend_puts {change : Members → Option Members} {ending : Ending}
    {way last : List (List Char)} {members after : Members}
    (puts : ∀ members after, change members = some after → Puts ending last members after)
    (made : descend change way members = some after) :
    Puts ending (way ++ last) members after := by
  induction way generalizing members after with
  | nil => exact puts members after made
  | cons key rest ih =>
      simp only [descend] at made
      split at made
      · rename_i missing
        obtain ⟨inner, opened, rfl⟩ := Option.map_eq_some_iff.mp made
        exact .made missing (ih opened)
      · cases made
      · rename_i origin inner _ found
        obtain ⟨changed, opened, rfl⟩ := Option.map_eq_some_iff.mp made
        exact .into found (ih opened)
      · rename_i items found
        obtain ⟨changed, opened, rfl⟩ := Option.map_eq_some_iff.mp made
        obtain ⟨inner, innerAfter, made⟩ := changeLast_made opened
        obtain ⟨next, others, tail⟩ := List.exists_cons_of_ne_nil (ih made).path_ne_nil
        rw [List.cons_append, tail]
        exact .intoLast found (changeLast_isRow opened)
      · cases made

namespace Statement

/-- The path from the root that a statement follows under a table. -/
def pathUnder (table : List (List Char)) : Statement → List (List Char)
  | .table path | .tables path => path
  | .entry path _ => table ++ path

/-- The table that entries go to after a statement. -/
def tableAfter (table : List (List Char)) : Statement → List (List Char)
  | .table path | .tables path => path
  | .entry _ _ => table

def ending : Statement → Ending
  | .table _ => .header
  | .tables _ => .row
  | .entry _ value => .value value

end Statement

theorem cutPath?_eq_some {path way : List (List Char)} {key : List Char}
    (cut : cutPath? path = some (way, key)) : way ++ [key] = path := by
  obtain ⟨last, found, same⟩ := Option.map_eq_some_iff.mp cut
  cases same
  exact List.dropLast_append_getLast? key found

theorem add_puts {draft next : Draft} {statement : Statement}
    (added : draft.add statement = some next) :
    Puts statement.ending (statement.pathUnder draft.current) draft.members next.members ∧
      next.current = statement.tableAfter draft.current := by
  cases statement with
  | table path =>
      simp only [Draft.add] at added
      split at added
      · rename_i way key cut
        obtain ⟨members, made, rfl⟩ := Option.map_eq_some_iff.mp added
        have whole := cutPath?_eq_some cut
        refine ⟨?_, rfl⟩
        rw [Statement.pathUnder, ← whole]
        exact descend_puts (fun _ _ => openTable_puts) made
      · cases added
  | tables path =>
      simp only [Draft.add] at added
      split at added
      · rename_i way key cut
        obtain ⟨members, made, rfl⟩ := Option.map_eq_some_iff.mp added
        have whole := cutPath?_eq_some cut
        refine ⟨?_, rfl⟩
        rw [Statement.pathUnder, ← whole]
        exact descend_puts (fun _ _ => addTable_puts) made
      · cases added
  | entry path value =>
      obtain ⟨members, made, rfl⟩ := Option.map_eq_some_iff.mp added
      exact ⟨descend_puts (fun _ _ => putDotted_puts) made, rfl⟩

/-! The keys of a table that something is put into, and the values of its other keys. -/

/-- Named items with one of a given name among them: behind the others if there was none or if it
is brought there, and otherwise the one that there was. -/
def settle {α : Type} (name : α → List Char) (brought : Bool) (item : α) (items : List α) :
    List α :=
  if brought then items.filter (name · ≠ name item) ++ [item]
  else if items.any (name · = name item) then items
  else items ++ [item]

theorem any_name_iff {α : Type} {name : α → List Char} {key : List Char} {items : List α} :
    (items.any fun other => name other = key) = true ↔ key ∈ items.map name := by
  simp only [List.any_eq_true, decide_eq_true_eq, List.mem_map]

theorem settle_of_present {α : Type} {name : α → List Char} {item : α} {items : List α}
    (present : name item ∈ items.map name) : settle name false item items = items := by
  rw [settle, if_neg Bool.false_ne_true, if_pos (any_name_iff.mpr present)]

theorem settle_of_missing {α : Type} {name : α → List Char} {brought : Bool} {item : α}
    {items : List α} (missing : name item ∉ items.map name) :
    settle name brought item items = items ++ [item] := by
  have whole : items.filter (name · ≠ name item) = items := by
    refine List.filter_eq_self.mpr fun other member => ?_
    have differs : name other ≠ name item :=
      fun same => missing (List.mem_map.mpr ⟨other, member, same⟩)
    simpa using differs
  cases brought with
  | true => simp only [settle, if_true, whole]
  | false =>
      rw [settle, if_neg Bool.false_ne_true, if_neg]
      exact fun among => missing (any_name_iff.mp among)

theorem map_settle {α : Type} (name : α → List Char) (brought : Bool) (item : α) (items : List α) :
    (settle name brought item items).map name =
      settle id brought (name item) (items.map name) := by
  cases brought with
  | true => simp [settle, List.filter_map, Function.comp_def]
  | false =>
      by_cases present : name item ∈ items.map name
      · have among : id (name item) ∈ (items.map name).map id := by simpa using present
        rw [settle_of_present present, settle_of_present among]
      · have apart : id (name item) ∉ (items.map name).map id := by simpa using present
        rw [settle_of_missing present, settle_of_missing apart, List.map_append,
          List.map_singleton]

section

variable {key other : List Char} {value : Toml} {members before after : Members}

theorem keys_remove :
    (remove key members).map Prod.fst = (members.map Prod.fst).filter (· ≠ key) := by
  simp [remove, List.filter_map, Function.comp_def]

theorem find?_append_self (missing : find? key members = none) :
    find? key (members ++ [(key, value)]) = some value := by
  have none : members.find? (·.1 = key) = none := Option.map_eq_none_iff.mp missing
  simp [find?, List.find?_append, none]

theorem find?_append_ne (differs : other ≠ key) :
    find? other (members ++ [(key, value)]) = find? other members := by
  have last : [(key, value)].find? (·.1 = other) = none := by simp [differs.symm]
  simp [find?, List.find?_append, last]

theorem find?_replace_self (present : key ∈ members.map Prod.fst) :
    find? key (replace key value members) = some value := by
  induction members with
  | nil => cases present
  | cons first rest ih =>
      by_cases same : first.1 = key
      · simp [find?, replace, same]
      · have later : key ∈ rest.map Prod.fst := by
          rcases List.mem_cons.mp present with here | there
          · exact absurd here.symm same
          · exact there
        simpa [find?, replace, same] using ih later

theorem find?_replace_ne (differs : other ≠ key) :
    find? other (replace key value members) = find? other members := by
  induction members with
  | nil => rfl
  | cons first rest ih =>
      by_cases same : first.1 = key
      · have apart : first.1 ≠ other := fun here => differs (here.symm.trans same)
        simpa [find?, replace, same, apart, differs.symm] using ih
      · by_cases here : first.1 = other
        · simp [find?, replace, here, differs]
        · simpa [find?, replace, same, here] using ih

theorem find?_remove_ne (differs : other ≠ key) :
    find? other (remove key members) = find? other members := by
  induction members with
  | nil => rfl
  | cons first rest ih =>
      by_cases same : first.1 = key
      · have apart : first.1 ≠ other := fun here => differs (here.symm.trans same)
        simpa [find?, remove, same, apart, differs.symm] using ih
      · by_cases here : first.1 = other
        · simp [find?, remove, here, differs]
        · simpa [find?, remove, same, here] using ih

theorem key_mem_of_find? (found : find? key members = some value) : key ∈ members.map Prod.fst :=
  List.mem_map.mpr ⟨(key, value), mem_of_find? found, rfl⟩

namespace Puts

variable {ending : Ending} {rest : List (List Char)}

/-- The first key of the path comes to stand behind the others if it is new or has its own header. -/
theorem keys (puts : Puts ending (key :: rest) before after) :
    after.map Prod.fst =
      settle id (ending.isHeader && rest.isEmpty) key (before.map Prod.fst) := by
  have kept (inside : rest.isEmpty = false) {found : Toml}
      (present : find? key before = some found) : before.map Prod.fst =
        settle id (ending.isHeader && rest.isEmpty) key (before.map Prod.fst) := by
    have member : id key ∈ (before.map Prod.fst).map id := by
      rw [List.map_id]
      exact key_mem_of_find? present
    rw [inside, Bool.and_false, settle_of_present member]
  cases puts with
  | fresh missing =>
      rw [settle_of_missing (by simpa using find?_eq_none.mp missing)]
      simp
  | opened header found =>
      simp [settle, header, keys_remove]
  | another row found =>
      have member : id key ∈ (before.map Prod.fst).map id := by
        rw [List.map_id]
        exact key_mem_of_find? found
      rw [row, Bool.false_and, keys_replace, settle_of_present member]
  | made missing inside =>
      rw [settle_of_missing (by simpa using find?_eq_none.mp missing)]
      simp
  | into found inside =>
      rw [keys_replace]
      exact kept (List.isEmpty_eq_false_iff.mpr inside.path_ne_nil) found
  | intoLast found row =>
      rw [keys_replace]
      exact kept rfl found

/-- The values of other keys are left alone. -/
theorem find?_ne (puts : Puts ending (key :: rest) before after) (differs : other ≠ key) :
    find? other after = find? other before := by
  cases puts with
  | fresh missing => exact find?_append_ne differs
  | opened header found => rw [find?_append_ne differs, find?_remove_ne differs]
  | another row found => exact find?_replace_ne differs
  | made missing inside => exact find?_append_ne differs
  | into found inside => exact find?_replace_ne differs
  | intoLast found row => exact find?_replace_ne differs

end Puts

end

end LiveSelector.Toml
