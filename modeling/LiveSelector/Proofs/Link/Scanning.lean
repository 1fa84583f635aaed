import LiveSelector.Proofs.Link.Labelled

namespace LiveSelector.Link

/-! What a limit does to a scan.  The limit decides how many links are taken and nothing else: which
links a text has, and whether they are tagged ones, is settled by its lines. -/

open Text (readLines)

variable {text : List Char} {limit : Nat} {link : Link}

theorem mem_allLinks_of_mem_extract (taken : link ∈ (extract text limit).links) :
    link ∈ allLinks text := by
  rw [extract_eq] at taken
  exact List.mem_of_mem_take taken

theorem taggedOf_eq_nil_iff {lines : List (List Char)} :
    taggedOf lines = [] ↔ ∀ line ∈ lines, tagged? line = none := by
  rw [taggedOf, List.filterMap_eq_nil_iff]

theorem allLinks_of_untagged (untagged : ∀ line ∈ readLines text, tagged? line = none) :
    allLinks text = bareOf (readLines text) := by
  simp only [allLinks, taggedOf_eq_nil_iff.mpr untagged, List.isEmpty_nil, if_true]

theorem allLinks_of_tagged (tagged : ∃ line ∈ readLines text, (tagged? line).isSome) :
    allLinks text = taggedOf (readLines text) := by
  obtain ⟨line, member, found⟩ := tagged
  refine allLinks_of_ne_nil fun none => ?_
  rw [taggedOf_eq_nil_iff.mp none line member] at found
  cases found

theorem tag_of_mem_taggedOf {lines : List (List Char)} (member : link ∈ taggedOf lines) :
    link.tag.isSome := by
  obtain ⟨line, _, found⟩ := List.mem_filterMap.mp member
  exact tagged?_tag found

theorem tag_of_mem_bareOf {lines : List (List Char)} (member : link ∈ bareOf lines) :
    link.tag = none := by
  obtain ⟨line, _, inLine⟩ := List.mem_flatMap.mp member
  obtain ⟨found, _, rfl⟩ := List.mem_map.mp inLine
  rfl

/-- A scan takes the first links of the text up to the limit and is marked if and only if there are
more.  The links of a text are the tagged ones of its lines if any line has one, and otherwise the
links without a label, so that a scan never has both. -/
theorem extract_cuts (text : List Char) :
    (∀ limit, (extract text limit).links = (allLinks text).take limit ∧
      ((extract text limit).truncated = true ↔ limit < (allLinks text).length)) ∧
    ((∃ line ∈ readLines text, (tagged? line).isSome) →
      allLinks text = (readLines text).filterMap tagged? ∧
        ∀ limit, ∀ link ∈ (extract text limit).links, link.tag.isSome) ∧
    ((∀ line ∈ readLines text, tagged? line = none) →
      allLinks text = (readLines text).flatMap bareLinks ∧
        ∀ limit, ∀ link ∈ (extract text limit).links, link.tag = none) := by
  refine ⟨fun limit => ?_, fun tagged => ?_, fun untagged => ?_⟩
  · rw [extract_eq]
    exact ⟨rfl, decide_eq_true_iff⟩
  · have all := allLinks_of_tagged tagged
    refine ⟨all, fun limit link taken => ?_⟩
    exact tag_of_mem_taggedOf (all ▸ mem_allLinks_of_mem_extract taken)
  · have all := allLinks_of_untagged untagged
    refine ⟨all, fun limit link taken => ?_⟩
    exact tag_of_mem_bareOf (all ▸ mem_allLinks_of_mem_extract taken)

/-- A path before a tagged link is no link of its text, and a limit of nothing still tells that
there is one. -/
theorem extract_cuts_tagged_and_plain :
    let tagged := "see a.html\n<a> b.html\n<b> c.html".toList
    let plain := "see a.html {x}\ndiv.html{y} b.htm".toList
    (∃ line ∈ readLines tagged, (tagged? line).isSome) ∧
      (∀ line ∈ readLines plain, tagged? line = none) ∧
      (extract tagged 0).truncated = true ∧ (extract tagged 2).truncated = false ∧
      (extract tagged 1).links = [⟨some "<a>", "b.html"⟩] ∧
      (∀ link ∈ (extract tagged 1).links, link.tag.isSome) ∧
      (extract plain 1).links = [bare "a.html"] ∧ (extract plain 2).truncated = false ∧
      ∀ link ∈ (extract plain 2).links, link.tag = none := by
  intro tagged plain
  have someTagged : ∃ line ∈ readLines tagged, (tagged? line).isSome := by decide
  have noneTagged : ∀ line ∈ readLines plain, tagged? line = none := by decide
  obtain ⟨taggedCut, taggedOnly, _⟩ := extract_cuts tagged
  obtain ⟨plainCut, _, bareOnly⟩ := extract_cuts plain
  have two : (allLinks tagged).length = 2 := by decide
  have others : (allLinks plain).length = 2 := by decide
  refine ⟨someTagged, noneTagged, (taggedCut 0).2.mpr (by omega), ?_, ?_,
    (taggedOnly someTagged).2 1, ?_, ?_, (bareOnly noneTagged).2 2⟩
  · exact Bool.eq_false_iff.mpr fun more => by have := (taggedCut 2).2.mp more; omega
  · exact (taggedCut 1).1.trans (by decide)
  · exact (plainCut 1).1.trans (by decide)
  · exact Bool.eq_false_iff.mpr fun more => by have := (plainCut 2).2.mp more; omega

end LiveSelector.Link
