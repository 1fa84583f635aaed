import LiveSelector.Config.File
import LiveSelector.Proofs.Toml.Spelling

namespace LiveSelector.Config

/-! The keys of a table in the order in which a document settles them.  A key comes to stand behind
the others when a statement first names it, and once more when a header of its own opens the table
that it was only a way to.  Each key is noted with the line of the statement that has placed it. -/

open Toml (Placed Statement Members settle)

/-- The keys of a section; a date counts as one with a key of its own. -/
def keysOf : Toml → List (List Char)
  | .table _ members => members.map Prod.fst
  | .moment => [momentKey]
  | _ => []

/-- The keys that a value brings along. -/
def innerKeys : Statement → List (List Char)
  | .entry _ value => keysOf value
  | _ => []

/-- What a path goes on with below a table. -/
def below? : List (List Char) → List (List Char) → Option (List (List Char))
  | [], path => some path
  | key :: table, next :: path => if key = next then below? table path else none
  | _ :: _, [] => none

/-- The keys right below a table that a statement names. -/
def keysIn (table : List (List Char)) (placed : Placed) : List (List Char) :=
  match below? table placed.path with
  | some (key :: _) => [key]
  | some [] => innerKeys placed.statement
  | none => []

/-- Whether a statement is the header of a table. -/
def isHeaderOf (path : List (List Char)) (placed : Placed) : Bool :=
  match placed.statement with
  | .table own => own = path
  | _ => false

/-- Keys settled one after another, all on one line. -/
def settleAll (brought : List Char → Bool) (line : Nat) (keys : List (List Char))
    (noted : List (List Char × Nat)) : List (List Char × Nat) :=
  keys.foldl (fun noted key => settle Prod.fst (brought key) (key, line) noted) noted

/-- The keys of a table with their lines, after one more statement. -/
def note (table : List (List Char)) (noted : List (List Char × Nat)) (placed : Placed) :
    List (List Char × Nat) :=
  settleAll (fun key => isHeaderOf (table ++ [key]) placed) placed.line (keysIn table placed) noted

/-- The keys of a table in their order, each with its line. -/
def outline (table : List (List Char)) (placed : List Placed) : List (List Char × Nat) :=
  placed.foldl (note table) []

/-- The statement that a key of a table is written with: its own header, or else the first one that
names it. -/
def writer? (placed : List Placed) (table : List (List Char)) (key : List Char) : Option Placed :=
  (placed.reverse.find? (isHeaderOf (table ++ [key]))).or
    (placed.find? fun own => (keysIn table own).contains key)

theorem below?_eq_some {table path rest : List (List Char)} :
    below? table path = some rest ↔ path = table ++ rest := by
  induction table generalizing path with
  | nil => exact ⟨fun same => Option.some.inj same, fun same => congrArg some same⟩
  | cons key table ih =>
      cases path with
      | nil => simp [below?]
      | cons next path =>
          by_cases same : key = next
          · simp [below?, same, ih]
          · simp [below?, same, Ne.symm same]

theorem mem_keysIn {table : List (List Char)} {key : List Char} {placed : Placed} :
    key ∈ keysIn table placed ↔
      (∃ rest, placed.path = table ++ key :: rest) ∨
        (placed.path = table ∧ key ∈ innerKeys placed.statement) := by
  unfold keysIn
  split
  · rename_i next rest below
    have path := below?_eq_some.mp below
    rw [path]
    simp [eq_comm]
  · rename_i below
    have path := below?_eq_some.mp below
    rw [path]
    simp
  · rename_i below
    constructor
    · exact fun member => by cases member
    · intro named
      rcases named with ⟨rest, path⟩ | ⟨path, inner⟩
      · rw [below?_eq_some.mpr path] at below
        cases below
      · rw [below?_eq_some.mpr (by rw [path, List.append_nil] : placed.path = table ++ [])] at below
        cases below

theorem path_of_isHeaderOf {path : List (List Char)} {placed : Placed}
    (opens : isHeaderOf path placed = true) : placed.path = path := by
  unfold isHeaderOf at opens
  split at opens
  · rename_i own header
    rw [Placed.path, header]
    exact of_decide_eq_true opens
  · cases opens

theorem keysIn_of_isHeaderOf {table : List (List Char)} {key : List Char} {placed : Placed}
    (opens : isHeaderOf (table ++ [key]) placed = true) : keysIn table placed = [key] := by
  rw [keysIn, below?_eq_some.mpr (path_of_isHeaderOf opens)]

/-! Settling keys -/

section

variable {brought : Bool} {key other : List Char} {line number : Nat}
  {noted : List (List Char × Nat)}

theorem settle_sublist (item : List Char × Nat) :
    (settle Prod.fst brought item noted).Sublist (noted ++ [item]) := by
  unfold settle
  split
  · exact List.filter_sublist.append_right [item]
  · split
    · exact List.sublist_append_left noted [item]
    · exact List.Sublist.refl _

theorem settle_nodup (distinct : (noted.map Prod.fst).Nodup) (item : List Char × Nat) :
    ((settle Prod.fst brought item noted).map Prod.fst).Nodup := by
  unfold settle
  split
  · rw [List.map_append, List.map_singleton]
    refine List.Nodup.append (distinct.sublist (List.filter_sublist.map _))
      (List.nodup_singleton _) ?_
    intro name old new
    obtain ⟨entry, kept, same⟩ := List.mem_map.mp old
    have differs : entry.1 ≠ item.1 := by simpa using List.of_mem_filter kept
    exact differs (same.trans (List.mem_singleton.mp new))
  · split
    · exact distinct
    · rename_i absent
      have missing : item.1 ∉ noted.map Prod.fst := fun old => absent (Toml.any_name_iff.mpr old)
      rw [List.map_append, List.map_singleton]
      refine List.Nodup.append distinct (List.nodup_singleton _) ?_
      intro name old new
      rw [List.mem_singleton.mp new] at old
      exact missing old

theorem mem_settle_iff :
    (other, number) ∈ settle Prod.fst brought (key, line) noted ↔
      (other = key ∧ number = line ∧ (brought = true ∨ key ∉ noted.map Prod.fst)) ∨
        ((other, number) ∈ noted ∧ (other = key → brought = false)) := by
  cases brought with
  | true =>
      simp only [settle, if_true, List.mem_append, List.mem_filter, List.mem_singleton,
        Prod.mk.injEq, decide_eq_true_eq, true_or, and_true, Bool.true_eq_false, imp_false]
      exact or_comm
  | false =>
      by_cases present : key ∈ noted.map Prod.fst
      · rw [Toml.settle_of_present present]
        simp [present]
      · rw [Toml.settle_of_missing present]
        simp only [present, List.mem_append, List.mem_singleton, Prod.mk.injEq, not_false_eq_true,
          or_true, and_true, implies_true]
        exact or_comm

theorem mem_names_settle :
    other ∈ (settle Prod.fst brought (key, line) noted).map Prod.fst ↔
      other = key ∨ other ∈ noted.map Prod.fst := by
  constructor
  · intro member
    obtain ⟨entry, among, rfl⟩ := List.mem_map.mp member
    rcases mem_settle_iff.mp among with ⟨same, _, _⟩ | ⟨old, _⟩
    · exact .inl same
    · exact .inr (List.mem_map.mpr ⟨entry, old, rfl⟩)
  · intro either
    by_cases new : other = key ∧ (brought = true ∨ key ∉ noted.map Prod.fst)
    · have settled : (other, line) ∈ settle Prod.fst brought (key, line) noted :=
        mem_settle_iff.mpr (.inl ⟨new.1, rfl, new.2⟩)
      exact List.mem_map.mpr ⟨_, settled, rfl⟩
    · have old : other ∈ noted.map Prod.fst := by
        rcases either with same | old
        · by_contra missing
          rw [same] at missing
          exact new ⟨same, .inr missing⟩
        · exact old
      obtain ⟨⟨name, number⟩, among, rfl⟩ := List.mem_map.mp old
      have kept : (name, number) ∈ settle Prod.fst brought (key, line) noted := by
        refine mem_settle_iff.mpr (.inr ⟨among, fun same => ?_⟩)
        by_contra yes
        exact new ⟨same, .inl (by simpa using yes)⟩
      exact List.mem_map.mpr ⟨_, kept, rfl⟩

end

section

variable {brought : List Char → Bool} {line number : Nat} {other : List Char}
  {keys : List (List Char)} {noted : List (List Char × Nat)}

theorem map_settleAll :
    (settleAll brought line keys noted).map Prod.fst =
      keys.foldl (fun names key => settle id (brought key) key names) (noted.map Prod.fst) := by
  induction keys generalizing noted with
  | nil => rfl
  | cons key rest ih =>
      refine ih.trans ?_
      rw [Toml.map_settle]
      rfl

theorem settleAll_sublist :
    (settleAll brought line keys noted).Sublist (noted ++ keys.map (·, line)) := by
  induction keys generalizing noted with
  | nil => simp [settleAll]
  | cons key rest ih =>
      have first : (settle Prod.fst (brought key) (key, line) noted).Sublist
          (noted ++ [(key, line)]) := settle_sublist (key, line)
      have whole := ih.trans (first.append_right (rest.map (·, line)))
      rw [List.append_assoc] at whole
      exact whole

theorem settleAll_nodup (distinct : (noted.map Prod.fst).Nodup) :
    ((settleAll brought line keys noted).map Prod.fst).Nodup := by
  induction keys generalizing noted with
  | nil => exact distinct
  | cons key rest ih => exact ih (settle_nodup distinct (key, line))

theorem mem_names_settleAll :
    other ∈ (settleAll brought line keys noted).map Prod.fst ↔
      other ∈ keys ∨ other ∈ noted.map Prod.fst := by
  induction keys generalizing noted with
  | nil => simp [settleAll]
  | cons key rest ih =>
      refine ih.trans ?_
      rw [mem_names_settle, List.mem_cons, or_left_comm, or_assoc]

/-- A key that was not there before, or is brought behind the others, is noted with the new line. -/
theorem mem_settleAll (member : (other, number) ∈ settleAll brought line keys noted) :
    (other ∈ keys ∧ number = line ∧ (brought other = true ∨ other ∉ noted.map Prod.fst)) ∨
      ((other, number) ∈ noted ∧ (other ∈ keys → brought other = false)) := by
  induction keys generalizing noted with
  | nil => exact .inr ⟨member, fun none => by cases none⟩
  | cons key rest ih =>
      rcases ih member with ⟨later, same, placed⟩ | ⟨early, kept⟩
      · refine .inl ⟨List.mem_cons_of_mem _ later, same, placed.imp_right fun missing old => ?_⟩
        exact missing (mem_names_settle.mpr (.inr old))
      · rcases mem_settle_iff.mp early with ⟨here, same, placed⟩ | ⟨old, unbrought⟩
        · rw [here]
          exact .inl ⟨List.mem_cons_self, same, placed⟩
        · refine .inr ⟨old, fun among => ?_⟩
          rcases List.mem_cons.mp among with here | there
          · rw [here]
            exact unbrought here
          · exact kept there

end

/-! The outline of a table -/

section

variable {table : List (List Char)} {key : List Char} {line : Nat} {placed : List Placed}

theorem outline_concat (last : Placed) :
    outline table (placed ++ [last]) = note table (outline table placed) last := by
  rw [outline, List.foldl_append]
  rfl

theorem outline_nodup : ((outline table placed).map Prod.fst).Nodup := by
  induction placed using List.reverseRecOn with
  | nil => exact List.nodup_nil
  | append_singleton placed last ih =>
      rw [outline_concat]
      exact settleAll_nodup ih

/-- A key is in the outline of a table if a statement names it. -/
theorem mem_outline_iff :
    key ∈ (outline table placed).map Prod.fst ↔ ∃ own ∈ placed, key ∈ keysIn table own := by
  induction placed using List.reverseRecOn with
  | nil => simp [outline]
  | append_singleton placed last ih =>
      rw [outline_concat, note, mem_names_settleAll, ih]
      simp only [List.mem_append, List.mem_singleton, or_and_right, exists_or, exists_eq_left]
      exact or_comm

/-- The outline is taken from the keys that the statements name, in their order. -/
theorem outline_sublist :
    (outline table placed).Sublist
      (placed.flatMap fun own => (keysIn table own).map (·, own.line)) := by
  induction placed using List.reverseRecOn with
  | nil => exact List.Sublist.refl _
  | append_singleton placed last ih =>
      rw [outline_concat, List.flatMap_append, List.flatMap_singleton]
      exact settleAll_sublist.trans (ih.append_right _)

theorem outline_ascending (ascending : placed.Pairwise (·.line < ·.line)) :
    (outline table placed).Pairwise (·.2 ≤ ·.2) := by
  refine List.Pairwise.sublist outline_sublist ?_
  refine List.pairwise_flatMap.mpr ⟨fun own _ => ?_, ascending.imp fun {first second} before => ?_⟩
  · refine List.pairwise_map.mpr (List.pairwise_of_forall fun _ _ => Nat.le_refl _)
  · intro left inLeft right inRight
    obtain ⟨_, _, rfl⟩ := List.mem_map.mp inLeft
    obtain ⟨_, _, rfl⟩ := List.mem_map.mp inRight
    exact Nat.le_of_lt before

theorem writer?_of_header {last : Placed} (opens : isHeaderOf (table ++ [key]) last = true) :
    writer? (placed ++ [last]) table key = some last := by
  simp [writer?, opens]

theorem writer?_concat {last : Placed} (plain : isHeaderOf (table ++ [key]) last = false) :
    writer? (placed ++ [last]) table key =
      (writer? placed table key).or ([last].find? fun own => (keysIn table own).contains key) := by
  rw [writer?, writer?, List.reverse_append, List.reverse_singleton, List.singleton_append,
    List.find?_cons_of_neg (by rw [plain]; exact Bool.false_ne_true), List.find?_append,
    Option.or_assoc]

theorem writer?_mem {own : Placed} (writes : writer? placed table key = some own) :
    own ∈ placed ∧ key ∈ keysIn table own := by
  rcases Option.or_eq_some_iff.mp writes with header | ⟨_, first⟩
  · have opens : isHeaderOf (table ++ [key]) own = true := List.find?_some header
    refine ⟨List.mem_reverse.mp (List.mem_of_find?_eq_some header), ?_⟩
    rw [keysIn_of_isHeaderOf opens]
    exact List.mem_singleton.mpr rfl
  · have named := List.find?_some first
    exact ⟨List.mem_of_find?_eq_some first, List.contains_iff_mem.mp named⟩

/-- Every key stands in the outline with the line of the statement that it is written with. -/
theorem writer?_of_outline (member : (key, line) ∈ outline table placed) :
    ∃ own, writer? placed table key = some own ∧ own.line = line := by
  induction placed using List.reverseRecOn generalizing line with
  | nil => cases member
  | append_singleton placed last ih =>
      rw [outline_concat] at member
      by_cases opens : isHeaderOf (table ++ [key]) last = true
      · refine ⟨last, writer?_of_header opens, ?_⟩
        rcases mem_settleAll member with ⟨named, same, _⟩ | ⟨old, kept⟩
        · exact same.symm
        · rw [keysIn_of_isHeaderOf opens] at kept
          rw [kept (List.mem_singleton.mpr rfl)] at opens
          cases opens
      · rw [Bool.not_eq_true] at opens
        rw [writer?_concat opens]
        rcases mem_settleAll member with ⟨named, same, new⟩ | ⟨old, kept⟩
        · have missing : key ∉ (outline table placed).map Prod.fst := by
            refine new.resolve_left fun yes => ?_
            rw [yes] at opens
            cases opens
          have absent : writer? placed table key = none := by
            cases writes : writer? placed table key with
            | none => rfl
            | some own => exact absurd (mem_outline_iff.mpr ⟨own, writer?_mem writes⟩) missing
          refine ⟨last, ?_, same.symm⟩
          rw [absent]
          simp [named]
        · obtain ⟨own, writes, same⟩ := ih old
          exact ⟨own, by rw [writes]; rfl, same⟩

end

end LiveSelector.Config
