import LiveSelector.Proofs.Text.Edits
import LiveSelector.Text.Utf8

namespace LiveSelector.Text

/-! The edit distance as a measure of how far sequences are apart.  A row of edits can be gone back,
another one can follow it, and no edit changes the length of a sequence by more than one; so the
distance is the same both ways, a detour is never shorter, and the lengths bound it. -/

variable {α : Type} {xs ys zs : List α} {count more : Nat}

theorem Edit.symm (edit : Edit xs ys) : Edit ys xs := by
  cases edit with
  | insert front back y => exact .delete front back y
  | delete front back x => exact .insert front back x
  | substitute front back x y => exact .substitute front back y x

theorem Edit.length_le (edit : Edit xs ys) : xs.length ≤ ys.length + 1 := by
  cases edit <;> simp only [List.length_append, List.length_cons] <;> omega

theorem Edits.trans (one : Edits count xs ys) (other : Edits more ys zs) :
    Edits (count + more) xs zs := by
  induction one with
  | none xs =>
      rw [Nat.zero_add]
      exact other
  | more first rest ih =>
      rw [Nat.add_right_comm]
      exact .more first (ih other)

theorem Edits.symm (edits : Edits count xs ys) : Edits count ys xs := by
  induction edits with
  | none xs => exact .none xs
  | more first rest ih => exact ih.trans (.more first.symm (.none _))

theorem Edits.length_le (edits : Edits count xs ys) : xs.length ≤ ys.length + count := by
  induction edits with
  | none xs => exact Nat.le_refl _
  | more first rest ih =>
      have step := first.length_le
      omega

theorem Edits.eq_of_zero (edits : Edits 0 xs ys) : xs = ys := by
  cases edits
  rfl

variable [DecidableEq α]

theorem editDistance_eq_zero_iff : editDistance xs ys = 0 ↔ xs = ys := by
  constructor
  · intro zero
    have edits := edits_editDistance xs ys
    rw [zero] at edits
    exact edits.eq_of_zero
  · intro same
    rw [same, editDistance_self]

theorem editDistance_comm (xs ys : List α) : editDistance xs ys = editDistance ys xs := by
  apply Nat.le_antisymm
  · exact (edits_editDistance ys xs).symm.editDistance_le
  · exact (edits_editDistance xs ys).symm.editDistance_le

theorem editDistance_triangle (xs ys zs : List α) :
    editDistance xs zs ≤ editDistance xs ys + editDistance ys zs :=
  ((edits_editDistance xs ys).trans (edits_editDistance ys zs)).editDistance_le

theorem length_le_editDistance (xs ys : List α) : xs.length ≤ ys.length + editDistance xs ys :=
  (edits_editDistance xs ys).length_le

/-- Replacing item by item and then putting in or taking out the rest is one of the ways. -/
theorem editDistance_le_max (xs ys : List α) : editDistance xs ys ≤ max xs.length ys.length := by
  induction xs generalizing ys with
  | nil =>
      rw [editDistance_nil_left]
      exact Nat.le_max_right _ _
  | cons x xs ih =>
      cases ys with
      | nil =>
          rw [editDistance_nil_right]
          exact Nat.le_max_left _ _
      | cons y ys =>
          have rest := ih ys
          have cost := substitutionCost_le x y
          rw [editDistance_cons_cons]
          simp only [List.length_cons]
          omega

/-- Texts with the same bytes are the same. -/
theorem encode_injective {text other : List Char} (same : encode text = encode other) :
    text = other := by
  have bytes : text.utf8Encode = other.utf8Encode := congrArg List.toByteArray same
  have texts : (String.ofList text).toByteArray = (String.ofList other).toByteArray := by
    rw [String.toByteArray_ofList, String.toByteArray_ofList, bytes]
  exact String.ofList_injective (String.toByteArray_inj.mp texts)

end LiveSelector.Text
