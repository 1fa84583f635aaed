namespace LiveSelector

/-!
Finite maps with text keys, kept in ascending key order.  Two tables that answer every look-up
alike are equal, so a table stands for the map alone and not for the way it was built.
-/

/-- A finite map with text keys, in ascending order of the keys. -/
structure Table (α : Type) where
  entries : List (String × α)
  ascending : entries.Pairwise fun a b => a.1 < b.1

namespace Table

variable {α : Type} {key other : String} {value : α}

/-- The value first stored under a key. -/
def lookup (key : String) : List (String × α) → Option α
  | [] => none
  | (k, v) :: rest => if k = key then some v else lookup key rest

/-- Entries with one stored in its place, an earlier one of its key replaced. -/
def store (key : String) (value : α) : List (String × α) → List (String × α)
  | [] => [(key, value)]
  | (k, v) :: rest =>
    if key < k then (key, value) :: (k, v) :: rest
    else if k = key then (key, value) :: rest
    else (k, v) :: store key value rest

/-- Entries without those of a key. -/
def drop (key : String) : List (String × α) → List (String × α)
  | [] => []
  | (k, v) :: rest => if k = key then drop key rest else (k, v) :: drop key rest

theorem lookup_store (entries : List (String × α)) :
    lookup other (store key value entries) =
      if key = other then some value else lookup other entries := by
  induction entries with
  | nil => simp [store, lookup]
  | cons entry rest ih =>
      obtain ⟨k, v⟩ := entry
      simp only [store]
      split
      · simp [lookup]
      · split
        · rename_i same
          subst same
          simp only [lookup]
          split <;> rfl
        · rename_i distinct
          simp only [lookup, ih]
          split
          · rename_i found
            subst found
            simp [Ne.symm distinct]
          · rfl

theorem lookup_drop (entries : List (String × α)) :
    lookup other (drop key entries) = if key = other then none else lookup other entries := by
  induction entries with
  | nil => simp [drop, lookup]
  | cons entry rest ih =>
      obtain ⟨k, v⟩ := entry
      simp only [drop]
      split
      · rename_i same
        subst same
        rw [ih]
        split
        · rfl
        · rename_i distinct
          simp [lookup, distinct]
      · rename_i distinct
        simp only [lookup, ih]
        split
        · rename_i found
          subst found
          simp [Ne.symm distinct]
        · rfl

theorem mem_store {entry : String × α} {entries : List (String × α)}
    (member : entry ∈ store key value entries) : entry = (key, value) ∨ entry ∈ entries := by
  induction entries with
  | nil => simpa [store] using member
  | cons first rest ih =>
      obtain ⟨k, v⟩ := first
      simp only [store] at member
      split at member
      · simpa using member
      · split at member
        · rcases List.mem_cons.mp member with found | inRest
          · exact .inl found
          · exact .inr (List.mem_cons_of_mem _ inRest)
        · rcases List.mem_cons.mp member with found | inRest
          · exact .inr (by simp [found])
          · rcases ih inRest with found | inOld
            · exact .inl found
            · exact .inr (List.mem_cons_of_mem _ inOld)

theorem mem_of_mem_drop {entry : String × α} {entries : List (String × α)}
    (member : entry ∈ drop key entries) : entry ∈ entries := by
  induction entries with
  | nil => exact member
  | cons first rest ih =>
      obtain ⟨k, v⟩ := first
      simp only [drop] at member
      split at member
      · exact List.mem_cons_of_mem _ (ih member)
      · rcases List.mem_cons.mp member with found | inRest
        · simp [found]
        · exact List.mem_cons_of_mem _ (ih inRest)

/-- Of two different keys one comes before the other. -/
theorem lt_of_not_lt {a b : String} (notBefore : ¬ a < b) (distinct : b ≠ a) : b < a := by
  refine Decidable.byContradiction fun notAfter => distinct ?_
  exact String.le_antisymm (String.not_lt.mp notBefore) (String.not_lt.mp notAfter)

theorem ascending_store {entries : List (String × α)}
    (ascending : entries.Pairwise fun a b => a.1 < b.1) :
    (store key value entries).Pairwise fun a b => a.1 < b.1 := by
  induction entries with
  | nil => simp [store]
  | cons first rest ih =>
      obtain ⟨k, v⟩ := first
      obtain ⟨below, restAscending⟩ := List.pairwise_cons.mp ascending
      simp only [store]
      split
      · rename_i before
        refine List.pairwise_cons.mpr ⟨fun entry member => ?_, ascending⟩
        rcases List.mem_cons.mp member with rfl | inRest
        · exact before
        · exact String.lt_trans before (below entry inRest)
      · rename_i notBefore
        split
        · rename_i same
          subst same
          exact List.pairwise_cons.mpr ⟨below, restAscending⟩
        · rename_i distinct
          refine List.pairwise_cons.mpr ⟨fun entry member => ?_, ih restAscending⟩
          rcases mem_store member with rfl | inRest
          · exact lt_of_not_lt notBefore distinct
          · exact below entry inRest

theorem ascending_drop {entries : List (String × α)}
    (ascending : entries.Pairwise fun a b => a.1 < b.1) :
    (drop key entries).Pairwise fun a b => a.1 < b.1 := by
  induction entries with
  | nil => simp [drop]
  | cons first rest ih =>
      obtain ⟨k, v⟩ := first
      obtain ⟨below, restAscending⟩ := List.pairwise_cons.mp ascending
      simp only [drop]
      split
      · exact ih restAscending
      · exact List.pairwise_cons.mpr
          ⟨fun entry member => below entry (mem_of_mem_drop member), ih restAscending⟩

/-- The table without entries. -/
def empty : Table α :=
  ⟨[], .nil⟩

instance : Inhabited (Table α) := ⟨empty⟩

/-- The value stored under a key. -/
def get? (table : Table α) (key : String) : Option α :=
  lookup key table.entries

/-- A table with a value stored under a key. -/
def insert (table : Table α) (key : String) (value : α) : Table α :=
  ⟨store key value table.entries, ascending_store table.ascending⟩

/-- A table with nothing stored under a key. -/
def erase (table : Table α) (key : String) : Table α :=
  ⟨drop key table.entries, ascending_drop table.ascending⟩

def keys (table : Table α) : List String :=
  table.entries.map (·.1)

/-- Whether something is stored under a key. -/
def contains (table : Table α) (key : String) : Bool :=
  (table.get? key).isSome

def isEmpty (table : Table α) : Bool :=
  table.entries.isEmpty

@[simp] theorem get?_empty : (empty : Table α).get? key = none := rfl

@[simp] theorem get?_insert (table : Table α) :
    (table.insert key value).get? other = if key = other then some value else table.get? other :=
  lookup_store table.entries

@[simp] theorem get?_erase (table : Table α) :
    (table.erase key).get? other = if key = other then none else table.get? other :=
  lookup_drop table.entries

theorem mem_keys_of_lookup {entries : List (String × α)} (found : (lookup key entries).isSome = true) :
    key ∈ entries.map (·.1) := by
  induction entries with
  | nil => simp [lookup] at found
  | cons entry rest ih =>
      obtain ⟨k, v⟩ := entry
      simp only [lookup] at found
      split at found
      · rename_i same
        simp [same]
      · exact List.mem_cons_of_mem _ (ih found)

theorem lookup_of_mem_keys {entries : List (String × α)} (member : key ∈ entries.map (·.1)) :
    (lookup key entries).isSome = true := by
  induction entries with
  | nil => cases member
  | cons entry rest ih =>
      obtain ⟨k, v⟩ := entry
      simp only [lookup]
      split
      · rfl
      · rename_i distinct
        rcases List.mem_cons.mp member with same | inRest
        · exact absurd same.symm distinct
        · exact ih inRest

/-- The keys are those under which something is stored. -/
theorem mem_keys_iff {table : Table α} : key ∈ table.keys ↔ (table.get? key).isSome = true :=
  ⟨lookup_of_mem_keys, mem_keys_of_lookup⟩

theorem lookup_eq_none {entries : List (String × α)} (absent : ∀ entry ∈ entries, entry.1 ≠ key) :
    lookup key entries = none := by
  induction entries with
  | nil => rfl
  | cons first rest ih =>
      have distinct := absent first (by simp)
      simp only [lookup, distinct, if_false]
      exact ih fun entry member => absent entry (List.mem_cons_of_mem _ member)

theorem entries_eq_of_lookup {first second : List (String × α)}
    (firstAscending : first.Pairwise fun a b => a.1 < b.1)
    (secondAscending : second.Pairwise fun a b => a.1 < b.1)
    (agree : ∀ key, lookup key first = lookup key second) : first = second := by
  induction first generalizing second with
  | nil =>
      cases second with
      | nil => rfl
      | cons entry rest => simpa [lookup] using agree entry.1
  | cons entry rest ih =>
      cases second with
      | nil => simpa [lookup] using agree entry.1
      | cons entry' rest' =>
          obtain ⟨k, v⟩ := entry
          obtain ⟨k', v'⟩ := entry'
          obtain ⟨below, restAscending⟩ := List.pairwise_cons.mp firstAscending
          obtain ⟨below', restAscending'⟩ := List.pairwise_cons.mp secondAscending
          have sameKey : k = k' := by
            refine Decidable.byContradiction fun distinct => ?_
            have here := agree k
            have there := agree k'
            simp only [lookup, if_true, distinct, Ne.symm distinct, if_false] at here there
            by_cases before : k < k'
            · rw [lookup_eq_none] at here
              · cases here
              · intro entry member same
                have after := below' entry member
                rw [same] at after
                exact String.lt_irrefl _ (String.lt_trans before after)
            · have before' := lt_of_not_lt before (Ne.symm distinct)
              rw [eq_comm, lookup_eq_none] at there
              · cases there
              · intro entry member same
                have after := below entry member
                rw [same] at after
                exact String.lt_irrefl _ (String.lt_trans before' after)
          subst sameKey
          have sameValue := agree k
          simp only [lookup, if_true, Option.some.injEq] at sameValue
          subst sameValue
          congr 1
          refine ih restAscending restAscending' fun key => ?_
          by_cases same : k = key
          · subst same
            rw [lookup_eq_none fun entry member same => ?_,
              lookup_eq_none fun entry member same => ?_]
            · have after := below' entry member
              rw [same] at after
              exact String.lt_irrefl _ after
            · have after := below entry member
              rw [same] at after
              exact String.lt_irrefl _ after
          · have next := agree key
            simpa only [lookup, same, if_false] using next

/-- Tables that answer every look-up alike are equal. -/
theorem ext_get? {first second : Table α} (agree : ∀ key, first.get? key = second.get? key) :
    first = second := by
  have same := entries_eq_of_lookup first.ascending second.ascending agree
  cases first
  cases second
  simp_all

end Table

end LiveSelector
