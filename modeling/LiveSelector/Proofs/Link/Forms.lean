import LiveSelector.Proofs.Link.SelectorRuns
import Mathlib.Data.List.TakeWhile

namespace LiveSelector.Link

/-! What a link without a label looks like in its line.  A scan takes a link where one begins and
goes on behind it, so that the links of a line stand in it one behind the other; each is a URL that
goes on as far as a URL can, or a path of path characters alone that ends in the extension of a page
and is not the front part of a longer word or of a selector. -/

open Text (isWord)

variable {text chars after : List Char} {found : Found}

/-- A URL of a page or a file: one of the beginnings, at least one character behind it, and no end
before a character that ends URLs. -/
def Found.IsUrl (found : Found) : Prop :=
  ∃ start ∈ urlStarts, ∃ rest, found.chars = start ++ rest ∧ rest ≠ [] ∧
    (∀ c ∈ rest, endsUrl c = false) ∧ ∀ c ∈ found.after.head?, endsUrl c = true

/-- A path of a page: path characters, the last of which are an extension. -/
def Found.IsPath (found : Found) : Prop :=
  (∀ c ∈ found.chars, isPathChar c = true) ∧
    ∃ name, name ≠ [] ∧ ∃ extension ∈ pageExtensions, found.chars = name ++ extension

/-- Neither a longer word nor a selector stands there instead of a path. -/
def Found.Ends (found : Found) : Prop :=
  ∀ c ∈ found.after.head?, isWord c = false ∧ c ∉ ['{', '[', '@', '|']

theorem isUrl_of_urlHere? (here : urlHere? (chars ++ after) = some chars) :
    Found.IsUrl ⟨chars, after⟩ := by
  obtain ⟨start, member, found⟩ := urlHere?_eq_some here
  obtain ⟨written, _, goesOn⟩ := urlAfter?_eq_some found
  obtain ⟨rest, split, _, ends⟩ := urlHere?_split here
  cases List.append_cancel_left split
  exact ⟨start, member, _, written, goesOn,
    fun c inside => by simpa using List.mem_takeWhile_imp inside, ends⟩

theorem isPath_of_pathHere? (here : pathHere? (chars ++ after) = some chars) :
    Found.IsPath ⟨chars, after⟩ ∧ endsWord after = true := by
  obtain ⟨_, _, _, path⟩ := pathHere?_split here
  generalize line : chars ++ after = text at here
  cases text with
  | nil => cases here
  | cons c rest =>
      simp only [pathHere?] at here
      split at here
      · obtain ⟨length, reach, rfl⟩ := Option.map_eq_some_iff.mp here
        obtain ⟨name, extension, member, ending, whole⟩ := endsInExtension_of_reach reach
        have same : c :: rest.take length ++ after = c :: rest.take length ++ rest.drop length := by
          rw [line, List.cons_append, List.take_append_drop]
        rw [List.append_cancel_left same]
        exact ⟨⟨path, c :: name, List.cons_ne_nil _ _, extension, member, by simp [ending]⟩, whole⟩
      · cases here

theorem bareHere?_of_mem_foundFrom (member : found ∈ foundFrom 0 text) :
    found.chars ++ found.after <:+ text ∧
      bareHere? (found.chars ++ found.after) = some found.chars := by
  induction text using scan_induction with
  | nil => cases member
  | pass c rest none ih =>
      rw [foundFrom_of_none none] at member
      obtain ⟨inside, here⟩ := ih member
      exact ⟨inside.trans (List.suffix_cons c rest), here⟩
  | take chars after _ some ih =>
      rw [foundFrom_of_some some] at member
      rcases List.mem_cons.mp member with rfl | later
      · exact ⟨List.suffix_refl _, some⟩
      · obtain ⟨inside, here⟩ := ih later
        exact ⟨inside.trans (List.suffix_append chars after), here⟩

/-- A later link lies in what follows an earlier one. -/
theorem foundFrom_apart (text : List Char) :
    (foundFrom 0 text).Pairwise fun earlier later =>
      later.chars ++ later.after <:+ earlier.after := by
  induction text using scan_induction with
  | nil => exact List.Pairwise.nil
  | pass c rest none ih => rwa [foundFrom_of_none none]
  | take chars after _ some ih =>
      rw [foundFrom_of_some some, List.pairwise_cons]
      exact ⟨fun later member => (bareHere?_of_mem_foundFrom member).1, ih⟩

theorem ends_of_endsWord (whole : endsWord after = true)
    (plain : continuesSelector after = false) : Found.Ends ⟨chars, after⟩ := by
  intro c first
  obtain ⟨rest, rfl⟩ := List.head?_eq_some_iff.mp first
  exact ⟨by simpa [endsWord] using whole, by simpa [continuesSelector] using plain⟩

theorem form_of_mem_foundFrom (member : found ∈ foundFrom 0 text)
    (plain : continuesSelector found.after = false) :
    found.IsUrl ∨ found.IsPath ∧ found.Ends := by
  obtain ⟨_, here⟩ := bareHere?_of_mem_foundFrom member
  rcases bareHere?_eq_some_iff.mp here with url | ⟨_, path⟩
  · exact .inl (isUrl_of_urlHere? url)
  · obtain ⟨form, whole⟩ := isPath_of_pathHere? path
    exact .inr ⟨form, ends_of_endsWord whole plain⟩

/-- The links without a label in a line are parts of it, each behind the one before, and each is a
URL or a path of a page. -/
theorem bareLinks_forms (line : List Char) :
    ∃ row : List Found,
      bareLinks line = row.map (fun found => bare (.ofList found.chars)) ∧
      (∀ found ∈ row, found.chars ++ found.after <:+ line) ∧
      row.Pairwise (fun earlier later => later.chars ++ later.after <:+ earlier.after) ∧
      ∀ found ∈ row, found.IsUrl ∨ found.IsPath ∧ found.Ends := by
  refine ⟨_, bareLinks_eq line, ?_, (foundFrom_apart line).filter _, ?_⟩
  · intro found taken
    exact (bareHere?_of_mem_foundFrom (List.mem_filter.mp taken).1).1
  · intro found taken
    obtain ⟨member, plain⟩ := List.mem_filter.mp taken
    exact form_of_mem_foundFrom member (by simpa using plain)

end LiveSelector.Link
