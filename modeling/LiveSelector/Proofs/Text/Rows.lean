import LiveSelector.Proofs.Text.Edits

namespace LiveSelector.Text

/-! The table of distances.  Reversing two sequences reverses the edits between them, so the distance
can be followed from the ends of the sequences as well as from their starts.  That is what a cell of
the table does: once the items of a start of the first sequence are worked off, the finished row has
the distances from that start to all starts of the other one.  Every place that is looked up on the
way is in its row. -/

variable {α : Type} {xs ys : List α} {count : Nat}

theorem Edit.reverse (edit : Edit xs ys) : Edit xs.reverse ys.reverse := by
  cases edit with
  | insert front back y => simpa using Edit.insert back.reverse front.reverse y
  | delete front back x => simpa using Edit.delete back.reverse front.reverse x
  | substitute front back x y => simpa using Edit.substitute back.reverse front.reverse x y

theorem Edits.reverse (edits : Edits count xs ys) : Edits count xs.reverse ys.reverse := by
  induction edits with
  | none xs => exact .none xs.reverse
  | more first _ ih => exact .more first.reverse ih

/-- A loop over items with their numbers comes to its end if each step goes through and keeps what
holds of the items before it. -/
theorem foldlM_zipIdx {σ : Type} {step : σ → α × Nat → Option σ} {start : σ} (items : List α)
    (holds : List α → σ → Prop)
    (keeps : ∀ done item rest state, items = done ++ item :: rest → holds done state →
      ∃ next, step state (item, done.length) = some next ∧ holds (done ++ [item]) next)
    (initial : holds [] start) :
    ∃ last, items.zipIdx.foldlM step start = some last ∧ holds items last := by
  have onward : ∀ rest done state, items = done ++ rest → holds done state →
      ∃ last, (rest.zipIdx done.length).foldlM step state = some last ∧ holds items last := by
    intro rest
    induction rest with
    | nil =>
        intro done state split now
        rw [List.append_nil] at split
        exact ⟨state, rfl, split ▸ now⟩
    | cons item rest ih =>
        intro done state split now
        obtain ⟨next, stepped, later⟩ := keeps done item rest state split now
        have further : items = (done ++ [item]) ++ rest := by simp [split]
        obtain ⟨last, folded, reached⟩ := ih (done ++ [item]) next further later
        refine ⟨last, ?_, reached⟩
        rw [List.length_append, List.length_singleton] at folded
        rw [List.zipIdx_cons, List.foldlM_cons, stepped]
        exact folded
  exact onward items [] start rfl initial

variable [DecidableEq α]

/-! The distance from the ends -/

theorem editDistance_reverse (xs ys : List α) :
    editDistance xs.reverse ys.reverse = editDistance xs ys := by
  have there := (edits_editDistance xs ys).reverse.editDistance_le
  have back := (edits_editDistance xs.reverse ys.reverse).reverse.editDistance_le
  rw [List.reverse_reverse, List.reverse_reverse] at back
  exact Nat.le_antisymm there back

/-- The recursion of the distance at the ends of the sequences. -/
theorem editDistance_concat_concat (x y : α) (xs ys : List α) :
    editDistance (xs ++ [x]) (ys ++ [y]) =
      min (min (editDistance xs (ys ++ [y]) + 1) (editDistance (xs ++ [x]) ys + 1))
        (editDistance xs ys + substitutionCost x y) := by
  rw [← editDistance_reverse (xs ++ [x]) (ys ++ [y]), ← editDistance_reverse xs (ys ++ [y]),
    ← editDistance_reverse (xs ++ [x]) ys, ← editDistance_reverse xs ys]
  simp only [List.reverse_append, List.reverse_singleton, List.singleton_append]
  exact editDistance_cons_cons x y xs.reverse ys.reverse

/-! Filling a row -/

theorem writeCell?_of_lt {row : Array Nat} {place : Nat} (value : Nat) (within : place < row.size) :
    ∃ next, writeCell? row place value = some next ∧ next.size = row.size ∧
      next[place]? = some value ∧ ∀ other, other ≠ place → next[other]? = row[other]? := by
  refine ⟨row.set place value within, ?_, Array.size_set _, ?_, fun other apart => ?_⟩
  · rw [writeCell?, dif_pos within]
  · exact Array.getElem?_set_self within
  · exact Array.getElem?_set_ne within (Ne.symm apart)

/-- A row with the distances from a sequence to the starts of another one, up to a length. -/
structure Filled (xs ys : List α) (reached : Nat) (row : Array Nat) : Prop where
  size : row.size = ys.length + 1
  cells : ∀ place ≤ reached, row[place]? = some (editDistance xs (ys.take place))

theorem filled_first (ys : List α) : Filled [] ys ys.length (Rows.first ys.length).finished := by
  refine ⟨by simp [Rows.first], fun place reached => ?_⟩
  have within : place < ys.length + 1 := by omega
  rw [editDistance_nil_left, List.length_take_of_le reached]
  simp [Rows.first, within]

section

variable {x y : α} {done rest : List α} {finished current : Array Nat}

theorem filled_begun (x : α) (xs : List α) (size : current.size = ys.length + 1) :
    ∃ begun, writeCell? current 0 (xs.length + 1) = some begun ∧ Filled (xs ++ [x]) ys 0 begun := by
  have within : 0 < current.size := by omega
  obtain ⟨begun, written, kept, cell, _⟩ := writeCell?_of_lt (xs.length + 1) within
  refine ⟨begun, written, kept.trans size, fun place reached => ?_⟩
  have first : place = 0 := by omega
  subst first
  rw [cell, List.take_zero, editDistance_nil_right, List.length_append, List.length_singleton]

theorem filled_fillCell? (above : Filled xs ys ys.length finished)
    (before : Filled (xs ++ [x]) ys done.length current) (split : ys = done ++ y :: rest) :
    ∃ next, fillCell? x finished current (y, done.length) = some next ∧
      Filled (xs ++ [x]) ys (done ++ [y]).length next := by
  have length : ys.length = done.length + 1 + rest.length := by
    simp only [split, List.length_append, List.length_cons]
    omega
  have shorter : ys.take done.length = done := by simp [split]
  have longer : ys.take (done.length + 1) = done ++ [y] := by simp [split, List.take_add_one]
  have up : finished[done.length + 1]? = some (editDistance xs (done ++ [y])) := by
    rw [above.cells _ (by omega), longer]
  have corner : finished[done.length]? = some (editDistance xs done) := by
    rw [above.cells _ (by omega), shorter]
  have beside : current[done.length]? = some (editDistance (xs ++ [x]) done) := by
    rw [before.cells _ (Nat.le_refl _), shorter]
  have within : done.length + 1 < current.size := by
    rw [before.size]
    omega
  obtain ⟨next, written, size, cell, others⟩ :=
    writeCell?_of_lt (editDistance (xs ++ [x]) (done ++ [y])) within
  refine ⟨next, ?_, size.trans before.size, fun place reached => ?_⟩
  · simp only [fillCell?, up, corner, beside, Option.bind_eq_bind, Option.bind_some]
    rw [← editDistance_concat_concat]
    exact written
  · rw [List.length_append, List.length_singleton] at reached
    by_cases newest : place = done.length + 1
    · rw [newest, cell, longer]
    · rw [others place newest]
      exact before.cells place (by omega)

/-- What holds of the two rows after the items of a start of the first sequence. -/
structure Tabulated (ys xs : List α) (rows : Rows) : Prop where
  finished : Filled xs ys ys.length rows.finished
  current : rows.current.size = ys.length + 1

theorem tabulated_fillRow? {rows : Rows} (before : Tabulated ys xs rows) :
    ∃ next, fillRow? ys rows (x, xs.length) = some next ∧ Tabulated ys (xs ++ [x]) next := by
  obtain ⟨begun, written, start⟩ := filled_begun x xs before.current
  obtain ⟨last, folded, whole⟩ := foldlM_zipIdx ys
    (fun done row => Filled (xs ++ [x]) ys done.length row)
    (fun _ _ _ _ split now => filled_fillCell? before.finished now split) start
  have sizes : rows.finished.size = last.size := before.finished.size.trans whole.size.symm
  refine ⟨⟨last, last⟩, ?_, whole, whole.size⟩
  simp only [fillRow?, written, folded, Option.bind_eq_bind, Option.bind_some, sizes, if_true]

end

/-- The table gives the distance; no place is looked up that is not in its row. -/
theorem tableDistance?_eq (xs ys : List α) : tableDistance? xs ys = some (editDistance xs ys) := by
  unfold tableDistance?
  split
  · rename_i same
    rw [same, editDistance_self]
  · have initial : Tabulated ys [] (.first ys.length) :=
      ⟨filled_first ys, by simp [Rows.first]⟩
    obtain ⟨rows, folded, tabulated⟩ := foldlM_zipIdx xs (Tabulated ys)
      (fun _ _ _ _ _ now => tabulated_fillRow? now) initial
    have last := tabulated.finished.cells ys.length (Nat.le_refl _)
    rw [List.take_length] at last
    simp only [folded, Option.bind_eq_bind, Option.bind_some, last]

theorem tableDistance_eq (xs ys : List α) : tableDistance xs ys = editDistance xs ys := by
  rw [tableDistance, tableDistance?_eq, Option.getD_some]

end LiveSelector.Text
