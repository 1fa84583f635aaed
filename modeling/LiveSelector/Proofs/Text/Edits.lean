import LiveSelector.Text.EditDistance
import Mathlib.Order.Bounds.Defs

namespace LiveSelector.Text

/-! Edit distance as what can be done with edits.  An edit puts in, takes out or replaces one item
anywhere in a sequence.  The distance is the length of some row of edits from one sequence to the
other, and since an edit changes the distance to a third sequence by one at most, of the shortest. -/

variable {α : Type}

/-- One edit leads from the first sequence to the second. -/
inductive Edit : List α → List α → Prop where
  | insert (front back : List α) (y : α) : Edit (front ++ back) (front ++ y :: back)
  | delete (front back : List α) (x : α) : Edit (front ++ x :: back) (front ++ back)
  | substitute (front back : List α) (x y : α) : Edit (front ++ x :: back) (front ++ y :: back)

/-- A row of so many edits leads from the first sequence to the second. -/
inductive Edits : Nat → List α → List α → Prop where
  | none (xs : List α) : Edits 0 xs xs
  | more {count : Nat} {xs ys zs : List α} (first : Edit xs ys) (rest : Edits count ys zs) :
      Edits (count + 1) xs zs

variable {xs ys zs : List α} {count : Nat}

theorem Edit.cons (edit : Edit xs ys) (c : α) : Edit (c :: xs) (c :: ys) := by
  cases edit with
  | insert front back y => exact .insert (c :: front) back y
  | delete front back x => exact .delete (c :: front) back x
  | substitute front back x y => exact .substitute (c :: front) back x y

theorem Edits.cons (edits : Edits count xs ys) (c : α) : Edits count (c :: xs) (c :: ys) := by
  induction edits with
  | none xs => exact .none (c :: xs)
  | more first _ ih => exact .more (first.cons c) ih

theorem edits_of_nil (ys : List α) : Edits ys.length [] ys := by
  induction ys with
  | nil => exact .none []
  | cons y ys ih => exact .more (.insert [] [] y) (ih.cons y)

theorem edits_to_nil (xs : List α) : Edits xs.length xs [] := by
  induction xs with
  | nil => exact .none []
  | cons x xs ih => exact .more (.delete [] xs x) ih

variable [DecidableEq α]

theorem substitutionCost_le (x y : α) : substitutionCost x y ≤ 1 := by
  unfold substitutionCost
  split <;> omega

theorem editDistance_nil_left (ys : List α) : editDistance [] ys = ys.length := by
  rw [editDistance]

theorem editDistance_cons_cons (x y : α) (xs ys : List α) :
    editDistance (x :: xs) (y :: ys) =
      min (min (editDistance xs (y :: ys) + 1) (editDistance (x :: xs) ys + 1))
        (editDistance xs ys + substitutionCost x y) := by
  rw [editDistance]

theorem editDistance_cons_cons_choice (x y : α) (xs ys : List α) :
    editDistance (x :: xs) (y :: ys) = editDistance xs (y :: ys) + 1 ∨
      editDistance (x :: xs) (y :: ys) = editDistance (x :: xs) ys + 1 ∨
      editDistance (x :: xs) (y :: ys) = editDistance xs ys + substitutionCost x y := by
  rw [editDistance_cons_cons]
  omega

/-- The row follows the recursion: the cheapest of its three ways is the one that was taken. -/
theorem edits_editDistance (xs ys : List α) : Edits (editDistance xs ys) xs ys := by
  induction xs generalizing ys with
  | nil =>
      rw [editDistance_nil_left]
      exact edits_of_nil ys
  | cons x xs ihLeft =>
      induction ys with
      | nil =>
          rw [editDistance_nil_right]
          exact edits_to_nil (x :: xs)
      | cons y ys ihRight =>
          have removed : Edits (editDistance xs (y :: ys) + 1) (x :: xs) (y :: ys) :=
            .more (.delete [] xs x) (ihLeft (y :: ys))
          have added : Edits (editDistance (x :: xs) ys + 1) (x :: xs) (y :: ys) :=
            .more (.insert [] (x :: xs) y) (ihRight.cons y)
          have replaced : Edits (editDistance xs ys + substitutionCost x y) (x :: xs) (y :: ys) := by
            unfold substitutionCost
            split
            · rename_i same
              subst same
              exact (ihLeft ys).cons x
            · exact .more (.substitute [] xs x y) ((ihLeft ys).cons y)
          rcases editDistance_cons_cons_choice x y xs ys with cheapest | cheapest | cheapest
          · rw [cheapest]
            exact removed
          · rw [cheapest]
            exact added
          · rw [cheapest]
            exact replaced

/-! What an edit does to the distance from a third sequence -/

theorem editDistance_cons_left_le (x : α) (xs zs : List α) :
    editDistance (x :: xs) zs ≤ editDistance xs zs + 1 := by
  cases zs with
  | nil => simp only [editDistance_nil_right, List.length_cons, Nat.le_refl]
  | cons z zs =>
      rw [editDistance_cons_cons]
      omega

theorem editDistance_cons_right_le (z : α) (xs zs : List α) :
    editDistance xs (z :: zs) ≤ editDistance xs zs + 1 := by
  cases xs with
  | nil => simp only [editDistance_nil_left, List.length_cons, Nat.le_refl]
  | cons x xs =>
      rw [editDistance_cons_cons]
      omega

theorem editDistance_le_cons_left (x : α) (xs zs : List α) :
    editDistance xs zs ≤ editDistance (x :: xs) zs + 1 := by
  induction zs with
  | nil =>
      simp only [editDistance_nil_right, List.length_cons]
      omega
  | cons z zs ih =>
      have longer := editDistance_cons_right_le z xs zs
      rw [editDistance_cons_cons]
      omega

theorem editDistance_replace_le (x y : α) (xs zs : List α) :
    editDistance (x :: xs) zs ≤ editDistance (y :: xs) zs + 1 := by
  induction zs with
  | nil => simp only [editDistance_nil_right, List.length_cons, Nat.le_succ]
  | cons z zs ih =>
      have cost := substitutionCost_le x z
      rw [editDistance_cons_cons, editDistance_cons_cons]
      omega

/-- Two sequences that are close to each other stay so behind a common first item. -/
theorem editDistance_cons_close (near : ∀ zs, editDistance xs zs ≤ editDistance ys zs + 1) (c : α)
    (zs : List α) : editDistance (c :: xs) zs ≤ editDistance (c :: ys) zs + 1 := by
  induction zs with
  | nil =>
      have lengths := near []
      simp only [editDistance_nil_right, List.length_cons] at lengths ⊢
      omega
  | cons z zs ih =>
      have whole := near (z :: zs)
      have rest := near zs
      rw [editDistance_cons_cons, editDistance_cons_cons]
      omega

theorem editDistance_append_close (near : ∀ zs, editDistance xs zs ≤ editDistance ys zs + 1)
    (front zs : List α) : editDistance (front ++ xs) zs ≤ editDistance (front ++ ys) zs + 1 := by
  induction front generalizing zs with
  | nil => exact near zs
  | cons c front ih => exact editDistance_cons_close ih c zs

theorem Edit.editDistance_le (edit : Edit xs ys) (zs : List α) :
    editDistance xs zs ≤ editDistance ys zs + 1 := by
  cases edit with
  | insert front back y =>
      exact editDistance_append_close (editDistance_le_cons_left y back) front zs
  | delete front back x =>
      exact editDistance_append_close (editDistance_cons_left_le x back) front zs
  | substitute front back x y =>
      exact editDistance_append_close (editDistance_replace_le x y back) front zs

theorem editDistance_self (xs : List α) : editDistance xs xs = 0 := by
  induction xs with
  | nil => rw [editDistance_nil_left, List.length_nil]
  | cons x xs ih => simp [editDistance_cons_cons, substitutionCost, ih]

theorem Edits.editDistance_le (edits : Edits count xs ys) : editDistance xs ys ≤ count := by
  induction edits with
  | none xs => exact Nat.le_of_eq (editDistance_self xs)
  | more first _ ih => exact Nat.le_trans (first.editDistance_le _) (Nat.succ_le_succ ih)

/-- The distance is the least number of edits that lead from one sequence to the other. -/
theorem isLeast_editDistance (xs ys : List α) :
    IsLeast {count | Edits count xs ys} (editDistance xs ys) :=
  ⟨edits_editDistance xs ys, fun _ edits => edits.editDistance_le⟩

end LiveSelector.Text
