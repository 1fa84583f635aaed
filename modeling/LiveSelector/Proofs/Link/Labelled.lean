import LiveSelector.Proofs.Link.Tagged

namespace LiveSelector.Link

/-! Which texts have a tagged link, said without a search: those that can be cut at a label in angle
brackets with blanks and a target on one line behind it.  The cut with the least text before the
label gives the link, and a link written out as its label is read back. -/

open Text (isBlank trimStart trimEnd trimChars)

variable {c : Char} {text rest before label blanks target after : List Char} {link : Link}

/-- What can stand as a target: it does not begin with a blank and has no line end in it. -/
structure IsTarget (target : List Char) : Prop where
  solid : ∃ first others, target = first :: others ∧ isBlank first = false
  oneLine : '\n' ∉ target

/-- A text cut at a label that a target follows, with blanks between them or none. -/
structure Labels (text before label blanks target : List Char) : Prop where
  cut : text = before ++ '<' :: (label ++ '>' :: (blanks ++ target))
  plain : ∀ c ∈ label, c ≠ '<' ∧ c ≠ '>'
  blank : ∀ c ∈ blanks, isBlank c = true
  leads : IsTarget target

/-- A cut that has no more text before its label than any other. -/
structure LabelsFirst (text before label blanks target : List Char) : Prop extends
    Labels text before label blanks target where
  first : ∀ {before' label' blanks' target'}, Labels text before' label' blanks' target' →
    before.length ≤ before'.length

/-- The link of a label and its target. -/
def ofLabel (label target : List Char) : Link :=
  ⟨some (.ofList ('<' :: label ++ ['>'])), Text.trim (.ofList target)⟩

theorem IsTarget.trimStart (leads : IsTarget target) : trimStart target = target := by
  obtain ⟨first, others, rfl, solid⟩ := leads.solid
  exact Text.trimStart_eq_self solid

theorem IsTarget.trim (leads : IsTarget target) :
    Text.trim (.ofList target) = .ofList (trimEnd target) := by
  rw [Text.trim, trimChars, String.toList_ofList, leads.trimStart]

theorem IsTarget.trimEnd (leads : IsTarget target) : IsTarget (trimEnd target) := by
  obtain ⟨⟨first, others, rfl, solid⟩, oneLine⟩ := leads
  obtain ⟨blanks, cut, _⟩ := Text.trimEnd_append_blanks (first :: others)
  refine ⟨⟨first, Text.trimEnd others, Text.trimEnd_cons_of_solid others solid, solid⟩, ?_⟩
  exact fun member => oneLine (cut ▸ List.mem_append_left blanks member)

theorem IsTarget.trim_ne_empty (leads : IsTarget target) : Text.trim (.ofList target) ≠ "" := by
  obtain ⟨first, others, same, _⟩ := leads.trimEnd.solid
  simp [leads.trim, same]

theorem labelled?_append (blank : ∀ c ∈ blanks, isBlank c = true) (leads : IsTarget target) :
    labelled? label (blanks ++ target) = some (ofLabel label target) := by
  have start : trimStart (blanks ++ target) = target := by
    rw [trimStart, List.dropWhile_append_of_pos blank, ← trimStart, leads.trimStart]
  obtain ⟨first, others, same, _⟩ := leads.solid
  have nonempty : target ≠ [] := by simp [same]
  simp only [labelled?, start, nonempty, leads.oneLine, decide_false, Bool.or_self,
    Bool.false_eq_true, if_false, ofLabel, leads.trim]

theorem target_of_labelled? (found : labelled? label after = some link) :
    ∃ blanks target, after = blanks ++ target ∧ (∀ c ∈ blanks, isBlank c = true) ∧
      IsTarget target ∧ link = ofLabel label target := by
  simp only [labelled?] at found
  split at found
  · cases found
  · rename_i good
    simp only [Bool.or_eq_true, decide_eq_true_eq, not_or] at good
    have leads : IsTarget (trimStart after) := by
      cases start : trimStart after with
      | nil => exact absurd start good.1
      | cons first others =>
          exact ⟨⟨first, others, rfl, Text.solid_of_trimStart start⟩, start ▸ good.2⟩
    refine ⟨after.takeWhile isBlank, trimStart after, ?_, ?_, leads, ?_⟩
    · exact List.takeWhile_append_dropWhile.symm
    · exact fun c member => List.mem_takeWhile_imp member
    · rw [ofLabel, leads.trim]
      exact (Option.some.inj found).symm

theorem isAngle_eq_false_iff : isAngle c = false ↔ c ≠ '<' ∧ c ≠ '>' := by
  simp [isAngle]

/-- At the start of a text there is at most one cut, and it is the one that is looked for there. -/
theorem taggedHere?_of_labels (labels : Labels text [] label blanks target) :
    taggedHere? text = some (ofLabel label target) := by
  obtain ⟨rfl, plain, blank, leads⟩ := labels
  have inside : ∀ c ∈ label, (!isAngle c) = true := fun c member => by
    rw [isAngle_eq_false_iff.mpr (plain c member), Bool.not_false]
  have closes : (!isAngle '>') = false := by decide
  rw [List.nil_append, taggedHere?_eq, List.dropWhile_append_of_pos inside,
    List.takeWhile_append_of_pos inside]
  simp only [List.dropWhile_cons, List.takeWhile_cons, closes, Bool.false_eq_true, if_false,
    List.append_nil]
  exact labelled?_append blank leads

theorem labels_of_taggedHere? (tagged : taggedHere? text = some link) :
    ∃ label blanks target, Labels text [] label blanks target ∧ link = ofLabel label target := by
  cases text with
  | nil => cases tagged
  | cons c rest =>
      by_cases opens : c = '<'
      · subst opens
        rw [taggedHere?_eq] at tagged
        split at tagged
        · rename_i after closing
          obtain ⟨blanks, target, rfl, blank, leads, same⟩ := target_of_labelled? tagged
          refine ⟨_, blanks, target, ⟨?_, ?_, blank, leads⟩, same⟩
          · rw [← closing, List.takeWhile_append_dropWhile, List.nil_append]
          · intro c member
            have inside := List.mem_takeWhile_imp member
            exact isAngle_eq_false_iff.mp (by simpa using inside)
        · cases tagged
      · rw [taggedHere?_of_ne opens] at tagged
        cases tagged

theorem labels_cons_iff {d : Char} :
    Labels (c :: text) (d :: before) label blanks target ↔
      c = d ∧ Labels text before label blanks target := by
  constructor
  · rintro ⟨cut, plain, blank, leads⟩
    obtain ⟨same, rest⟩ := List.cons.inj cut
    exact ⟨same, rest, plain, blank, leads⟩
  · rintro ⟨rfl, rfl, plain, blank, leads⟩
    exact ⟨rfl, plain, blank, leads⟩

theorem tagged?_cons_of_none (none : taggedHere? (c :: rest) = none) :
    tagged? (c :: rest) = tagged? rest := by
  simp only [tagged?, none]

theorem tagged?_of_taggedHere? (here : taggedHere? text = some link) : tagged? text = some link := by
  cases text with
  | nil => cases here
  | cons c rest => simp only [tagged?, here]

theorem tagged?_exists (labels : Labels text before label blanks target) :
    ∃ link, tagged? text = some link := by
  induction before generalizing text with
  | nil => exact ⟨_, tagged?_of_taggedHere? (taggedHere?_of_labels labels)⟩
  | cons d before ih =>
      cases text with
      | nil => cases labels.cut
      | cons c rest =>
          cases here : taggedHere? (c :: rest) with
          | some link => exact ⟨link, tagged?_of_taggedHere? here⟩
          | none =>
              rw [tagged?_cons_of_none here]
              exact ih (labels_cons_iff.mp labels).2

theorem labelsFirst_of_tagged? (tagged : tagged? text = some link) :
    ∃ before label blanks target, LabelsFirst text before label blanks target ∧
      link = ofLabel label target := by
  induction text with
  | nil => cases tagged
  | cons c rest ih =>
      cases here : taggedHere? (c :: rest) with
      | some found =>
          rw [tagged?_of_taggedHere? here] at tagged
          cases tagged
          obtain ⟨label, blanks, target, labels, same⟩ := labels_of_taggedHere? here
          exact ⟨[], label, blanks, target, ⟨labels, fun _ => Nat.zero_le _⟩, same⟩
      | none =>
          rw [tagged?_cons_of_none here] at tagged
          obtain ⟨before, label, blanks, target, ⟨labels, first⟩, same⟩ := ih tagged
          refine ⟨c :: before, label, blanks, target,
            ⟨labels_cons_iff.mpr ⟨rfl, labels⟩, ?_⟩, same⟩
          intro before' label' blanks' target' labels'
          cases before' with
          -- A cut at the first character would have been taken there.
          | nil => rw [taggedHere?_of_labels labels'] at here; cases here
          | cons d others =>
              exact Nat.succ_le_succ (first (labels_cons_iff.mp labels').2)

theorem tagged?_of_labelsFirst (labels : LabelsFirst text before label blanks target) :
    tagged? text = some (ofLabel label target) := by
  induction text generalizing before with
  | nil => cases before <;> cases labels.cut
  | cons c rest ih =>
      cases before with
      | nil => exact tagged?_of_taggedHere? (taggedHere?_of_labels labels.toLabels)
      | cons d before =>
          have later := (labels_cons_iff.mp labels.toLabels).2
          cases here : taggedHere? (c :: rest) with
          | some found =>
              obtain ⟨_, _, _, earlier, _⟩ := labels_of_taggedHere? here
              exact absurd (labels.first earlier) (by simp)
          | none =>
              rw [tagged?_cons_of_none here]
              refine ih ⟨later, fun other => ?_⟩
              exact Nat.le_of_succ_le_succ (labels.first (labels_cons_iff.mpr ⟨rfl, other⟩))

/-- A tagged link written out as it is shown is read back. -/
theorem tagged?_label_ofLabel (plain : ∀ c ∈ label, c ≠ '<' ∧ c ≠ '>') (leads : IsTarget target) :
    tagged? (ofLabel label target).label.toList = some (ofLabel label target) := by
  have shown : (ofLabel label target).label.toList =
      '<' :: (label ++ '>' :: ([' '] ++ trimEnd target)) := by
    simp [ofLabel, Link.label, leads.trim]
  have labels : Labels (ofLabel label target).label.toList [] label [' '] (trimEnd target) :=
    ⟨shown, plain, by simp; decide, leads.trimEnd⟩
  have again : ofLabel label (trimEnd target) = ofLabel label target := by
    rw [ofLabel, ofLabel, leads.trimEnd.trim, leads.trim, Text.trimEnd_trimEnd]
  have read := tagged?_of_taggedHere? (taggedHere?_of_labels labels)
  rwa [again] at read

theorem tagged?_tag (tagged : tagged? text = some link) : link.tag.isSome := by
  obtain ⟨_, _, _, _, _, rfl⟩ := labelsFirst_of_tagged? tagged
  rfl

/-- A text has a tagged link if and only if it can be cut at a label with a target; the first cut
gives the link, whose target is not empty, and the link can be read back from how it is shown. -/
theorem tagged?_grammar (text : List Char) :
    ((∃ link, tagged? text = some link) ↔
      ∃ before label blanks target, Labels text before label blanks target) ∧
    (∀ link, tagged? text = some link ↔
      ∃ before label blanks target, LabelsFirst text before label blanks target ∧
        link = ⟨some (.ofList ('<' :: label ++ ['>'])), Text.trim (.ofList target)⟩) ∧
    ∀ link, tagged? text = some link →
      link.target ≠ "" ∧ tagged? link.label.toList = some link := by
  refine ⟨⟨?_, ?_⟩, fun link => ⟨labelsFirst_of_tagged?, ?_⟩, ?_⟩
  · rintro ⟨link, tagged⟩
    obtain ⟨before, label, blanks, target, labels, _⟩ := labelsFirst_of_tagged? tagged
    exact ⟨before, label, blanks, target, labels.toLabels⟩
  · rintro ⟨before, label, blanks, target, labels⟩
    exact tagged?_exists labels
  · rintro ⟨before, label, blanks, target, labels, rfl⟩
    exact tagged?_of_labelsFirst labels
  · intro link tagged
    obtain ⟨before, label, blanks, target, labels, rfl⟩ := labelsFirst_of_tagged? tagged
    exact ⟨labels.leads.trim_ne_empty, tagged?_label_ofLabel labels.plain labels.leads⟩

/-- Labels that are cut off by another bracket or have a line end before the end of the text behind
them do not count. -/
theorem later_label_read_back :
    let text := "<<a>\n <b> x\n<i <list>\u00A0p.html <q>  ".toList
    let link : Link := ⟨some "<list>", "p.html <q>"⟩
    tagged? text = some link ∧
      (∃ before label blanks target, Labels text before label blanks target) ∧
      link.target ≠ "" ∧ tagged? link.label.toList = some link := by
  intro text link
  have tagged : tagged? text = some link := by decide
  obtain ⟨cuts, _, read⟩ := tagged?_grammar text
  exact ⟨tagged, cuts.mp ⟨link, tagged⟩, read link tagged⟩

end LiveSelector.Link
