import LiveSelector.Proofs.Link.Places

namespace LiveSelector.Link

/-! The links of a part of a line: those that begin in it.  The links of a line are those of its
parts, one part after the other, wherever the line is cut; a link may reach from its own part into
the next. -/

variable {text before run after one two : List Char} {length : Nat} {found : Found}

/-- The number of characters of a line from the start of a link on. -/
def Found.width (found : Found) : Nat :=
  found.chars.length + found.after.length

/-- A link begins in a part of a line that other text follows. -/
def Found.beginsIn (part after : List Char) (found : Found) : Bool :=
  after.length < found.width && found.width ≤ (part ++ after).length

/-- The links without a label that begin in a part of a line, those that are parts of selectors left
out. -/
def linksIn (before part after : List Char) : List Link :=
  ((foundFrom 0 (before ++ (part ++ after))).filter fun found =>
    !continuesSelector found.after && found.beginsIn part after).map
      fun found => bare (.ofList found.chars)

theorem beginsIn_iff : found.beginsIn run after = true ↔
    after.length < found.width ∧ found.width ≤ (run ++ after).length := by
  simp only [Found.beginsIn, Bool.and_eq_true, decide_eq_true_eq]

theorem beginsIn_of_wider (wider : (run ++ after).length < found.width) :
    found.beginsIn run after = false :=
  Bool.eq_false_iff.mpr fun inside => Nat.not_le.mpr wider (beginsIn_iff.mp inside).2

theorem width_of_ended (nonempty : found.chars ≠ []) (ended : length ≤ found.after.length) :
    length < found.width := by
  have := List.length_pos_iff.mpr nonempty
  rw [Found.width]
  omega

theorem width_le_of_mem_foundFrom (member : found ∈ foundFrom 0 text) :
    found.chars ≠ [] ∧ found.width ≤ text.length := by
  induction text using scan_induction with
  | nil => cases member
  | pass c rest none ih =>
      rw [foundFrom_of_none none] at member
      obtain ⟨nonempty, within⟩ := ih member
      exact ⟨nonempty, Nat.le_succ_of_le within⟩
  | take chars after nonempty some ih =>
      rw [foundFrom_of_some some] at member
      rcases List.mem_cons.mp member with rfl | later
      · exact ⟨nonempty, by simp [Found.width]⟩
      · obtain ⟨others, within⟩ := ih later
        exact ⟨others, by rw [List.length_append]; omega⟩

theorem beginsIn_of_mem_behind (member : found ∈ foundFrom 0 text)
    (behind : text.length ≤ after.length) : found.beginsIn run after = false :=
  Bool.eq_false_iff.mpr fun inside => Nat.not_lt.mpr
    (Nat.le_trans (width_le_of_mem_foundFrom member).2 behind) (beginsIn_iff.mp inside).1

/-! ### Cutting a line -/

theorem foundFrom_descends (text : List Char) :
    (foundFrom 0 text).Pairwise fun earlier later => later.width < earlier.width := by
  induction text using scan_induction with
  | nil => exact List.Pairwise.nil
  | pass c rest none ih => rwa [foundFrom_of_none none]
  | take chars after nonempty some ih =>
      rw [foundFrom_of_some some, List.pairwise_cons]
      have wider : after.length < Found.width ⟨chars, after⟩ :=
        width_of_ended nonempty (Nat.le_refl _)
      exact ⟨fun found member => Nat.lt_of_le_of_lt (width_le_of_mem_foundFrom member).2 wider, ih⟩

theorem filter_split {row : List Found} (keep : Found → Bool) (bound : Nat)
    (descends : row.Pairwise fun earlier later => later.width < earlier.width) :
    row.filter keep = (row.filter fun found => keep found && decide (bound < found.width)) ++
      row.filter fun found => keep found && decide (found.width ≤ bound) := by
  induction row with
  | nil => rfl
  | cons found rest ih =>
      obtain ⟨narrower, others⟩ := List.pairwise_cons.mp descends
      by_cases wide : bound < found.width
      · have thin : ¬ found.width ≤ bound := Nat.not_le.mpr wide
        rw [List.filter_cons, List.filter_cons, List.filter_cons, ih others]
        cases keep found <;> simp [wide, thin]
      · -- From a link on that begins behind the cut all do.
        have thin : ∀ later ∈ found :: rest, later.width ≤ bound := fun later member => by
          rcases List.mem_cons.mp member with rfl | behind
          · exact Nat.not_lt.mp wide
          · exact Nat.le_trans (Nat.le_of_lt (narrower later behind)) (Nat.not_lt.mp wide)
        have front : ((found :: rest).filter fun later =>
            keep later && decide (bound < later.width)) = [] :=
          List.filter_eq_nil_iff.mpr fun later member => by simp [thin later member]
        rw [front, List.nil_append]
        exact List.filter_congr fun later member => by simp [thin later member]

theorem linksIn_append (before one two after : List Char) :
    linksIn before (one ++ two) after =
      linksIn before one (two ++ after) ++ linksIn (before ++ one) two after := by
  have line : before ++ (one ++ two ++ after) = before ++ (one ++ (two ++ after)) := by simp
  have same : before ++ one ++ (two ++ after) = before ++ (one ++ (two ++ after)) := by simp
  rw [linksIn, linksIn, linksIn, line, same, ← List.map_append]
  rw [filter_split _ (two ++ after).length (foundFrom_descends _)]
  congr 2
  · refine List.filter_congr fun found _ => Bool.eq_iff_iff.mpr ?_
    simp only [Bool.and_eq_true, beginsIn_iff, decide_eq_true_eq, List.length_append]
    grind
  · refine List.filter_congr fun found _ => Bool.eq_iff_iff.mpr ?_
    simp only [Bool.and_eq_true, beginsIn_iff, decide_eq_true_eq, List.length_append]
    grind

theorem bareLinks_parts (before run after : List Char) :
    bareLinks (before ++ (run ++ after)) =
      linksIn [] before (run ++ after) ++
        (linksIn before run after ++ linksIn (before ++ run) after []) := by
  have whole : bareLinks (before ++ (run ++ after)) = linksIn [] (before ++ (run ++ after)) [] := by
    rw [bareLinks_eq, linksIn, List.nil_append, List.append_nil]
    refine congrArg _ (List.filter_congr fun found member => ?_)
    obtain ⟨nonempty, within⟩ := width_le_of_mem_foundFrom member
    have begins : found.beginsIn (before ++ (run ++ after)) [] = true :=
      beginsIn_iff.mpr ⟨width_of_ended nonempty (Nat.zero_le _), by rwa [List.append_nil]⟩
    rw [begins, Bool.and_true]
  rw [whole, linksIn_append, linksIn_append, List.append_nil, List.append_nil, List.nil_append]

/-- The scan of a line comes to a place in it, or a link that begins before the place takes it in.
The links before that one end before the place. -/
theorem foundFrom_append_cases (front back : List Char) :
    ∃ first, (∀ found ∈ first, found.chars ≠ [] ∧ back.length ≤ found.after.length) ∧
      (foundFrom 0 (front ++ back) = first ++ foundFrom 0 back ∨
        ∃ passed head tail after, front = passed ++ head ∧ back = tail ++ after ∧ head ≠ [] ∧
          tail ≠ [] ∧ bareHere? (head ++ tail ++ after) = some (head ++ tail) ∧
          foundFrom 0 (front ++ back) =
            first ++ ⟨head ++ tail, after⟩ :: foundFrom 0 after) := by
  generalize line : front ++ back = text
  induction text using scan_induction generalizing front with
  | nil =>
      obtain ⟨rfl, rfl⟩ := List.append_eq_nil_iff.mp line
      exact ⟨[], by simp, .inl rfl⟩
  | pass c rest none ih =>
      cases front with
      | nil => exact ⟨[], by simp, .inl (by rw [← line]; rfl)⟩
      | cons d others =>
          obtain ⟨rfl, same⟩ := List.cons.inj line
          obtain ⟨first, ended, scan⟩ := ih others same
          rw [foundFrom_of_none none]
          refine ⟨first, ended, scan.imp id ?_⟩
          rintro ⟨passed, head, tail, after, rfl, parts⟩
          exact ⟨d :: passed, head, tail, after, rfl, parts⟩
  | take chars after nonempty some ih =>
      -- The link ends at the cut or behind it, or it ends before it and the scan goes on.
      rcases List.append_eq_append_iff.mp line with ⟨tail, rfl, rfl⟩ | ⟨others, rfl, rfl⟩
      · by_cases atStart : front = []
        · subst atStart
          exact ⟨[], by simp, .inl (by rw [← line]; rfl)⟩
        · rw [foundFrom_of_some some]
          by_cases ended : tail = []
          · subst ended
            exact ⟨[⟨front ++ [], after⟩], by simp [atStart], .inl rfl⟩
          · exact ⟨[], by simp, .inr ⟨[], front, tail, after, rfl, rfl, atStart, ended, some, rfl⟩⟩
      · rw [foundFrom_of_some some]
        obtain ⟨first, ended, scan⟩ := ih others rfl
        refine ⟨⟨chars, others ++ back⟩ :: first, ?_, ?_⟩
        · simpa [nonempty] using ended
        · refine scan.imp (congrArg _) ?_
          rintro ⟨passed, head, tail, after, rfl, same, one, two, here, scan⟩
          exact ⟨chars ++ passed, head, tail, after, (List.append_assoc ..).symm, same, one, two,
            here, congrArg _ scan⟩

/-- Links that begin elsewhere do not count for a part. -/
theorem linksIn_eq (first middle last : List Found)
    (scan : foundFrom 0 (before ++ (run ++ after)) = first ++ (middle ++ last))
    (front : ∀ found ∈ first, found.beginsIn run after = false)
    (back : ∀ found ∈ last, found.beginsIn run after = false) :
    linksIn before run after = (middle.filter fun found =>
      !continuesSelector found.after && found.beginsIn run after).map
        fun found => bare (.ofList found.chars) := by
  have none : ∀ row : List Found, (∀ found ∈ row, found.beginsIn run after = false) →
      (row.filter fun found => !continuesSelector found.after && found.beginsIn run after) = [] :=
    fun row elsewhere => List.filter_eq_nil_iff.mpr fun found member => by
      simp [elsewhere found member]
  rw [linksIn, scan, List.filter_append, List.filter_append, none first front, none last back,
    List.nil_append, List.append_nil]

end LiveSelector.Link
