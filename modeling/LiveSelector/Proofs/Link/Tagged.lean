import LiveSelector.Document.CodeAction
import LiveSelector.Link.Choice
import LiveSelector.Proofs.Text.Trimming

namespace LiveSelector

/-! Tagged links line by line.  A scan of a whole text and a look at one line cut the text into
lines each in its own way, which differ in carriage returns and in an empty last line; neither makes
a difference to a tagged link. -/

open Text (dropReturn trimStart trimEnd)

namespace Link

variable {link : Link} {text : List Char}

theorem taggedHere?_of_ne {c : Char} (other : c ≠ '<') (rest : List Char) :
    taggedHere? (c :: rest) = none := by
  unfold taggedHere?
  split
  · rename_i same
    exact absurd (List.cons.inj same).1 other
  · rfl

/-- The link of a label and what follows it. -/
def labelled? (label after : List Char) : Option Link :=
  if trimStart after = [] || '\n' ∈ trimStart after then none
  else some ⟨some (.ofList ('<' :: label ++ ['>'])), .ofList (trimEnd (trimStart after))⟩

theorem labelled?_append_return (label after : List Char) :
    labelled? label (after ++ ['\r']) = labelled? label after := by
  have start : trimStart (after ++ ['\r']) =
      if trimStart after = [] then [] else trimStart after ++ ['\r'] := by
    have blank : trimStart ['\r'] = [] := by decide
    rw [trimStart, List.dropWhile_append, ← trimStart, ← trimStart, blank]
    simp only [List.isEmpty_iff]
  by_cases empty : trimStart after = []
  · simp only [labelled?, start, empty, if_true]
  · have stop := Text.trimEnd_append_blank (c := '\r') (by decide) (trimStart after)
    simp [labelled?, start, empty, stop]

theorem taggedHere?_eq (rest : List Char) :
    taggedHere? ('<' :: rest) =
      match rest.dropWhile fun c => !isAngle c with
      | '>' :: after => labelled? (rest.takeWhile fun c => !isAngle c) after
      | _ => none := rfl

theorem taggedHere?_append_return (text : List Char) :
    taggedHere? (text ++ ['\r']) = taggedHere? text := by
  cases text with
  | nil => rfl
  | cons c rest =>
      by_cases opens : c = '<'
      · subst opens
        rw [List.cons_append, taggedHere?_eq, taggedHere?_eq, List.dropWhile_append]
        cases closing : rest.dropWhile fun c => !isAngle c with
        | nil => rfl
        | cons angle after =>
            have label : (rest ++ ['\r']).takeWhile (fun c => !isAngle c) =
                rest.takeWhile fun c => !isAngle c := by
              rw [List.takeWhile_append, if_neg]
              intro whole
              have both := congrArg List.length
                (List.takeWhile_append_dropWhile (p := fun c => !isAngle c) (l := rest))
              simp [closing, whole] at both
            rw [label]
            -- Only what follows the label grows, by a blank.
            by_cases closes : angle = '>'
            · subst closes
              exact labelled?_append_return _ after
            · simp [closes]
      · rw [List.cons_append, taggedHere?_of_ne opens, taggedHere?_of_ne opens]

theorem tagged?_append_return (text : List Char) : tagged? (text ++ ['\r']) = tagged? text := by
  induction text with
  | nil => rfl
  | cons c rest ih =>
      have here := taggedHere?_append_return (c :: rest)
      rw [List.cons_append] at here ⊢
      simp only [tagged?, here, ih]

theorem tagged?_dropReturn (piece : List Char) : tagged? (dropReturn piece) = tagged? piece := by
  rcases Text.dropReturn_append piece with whole | cut
  · rw [whole]
  · rw [← tagged?_append_return, cut]

theorem taggedHere?_target (tagged : taggedHere? text = some link) :
    Text.trim link.target = link.target ∧ link.target ≠ "" := by
  cases text with
  | nil => cases tagged
  | cons c rest =>
      by_cases opens : c = '<'
      · subst opens
        rw [taggedHere?_eq] at tagged
        split at tagged
        · rename_i after closing
          simp only [labelled?] at tagged
          split at tagged
          · cases tagged
          · rename_i good
            cases tagged
            cases cut : trimStart after with
            | nil => simp [cut] at good
            | cons first others =>
                have solid := Text.solid_of_trimStart cut
                have target := Text.trimEnd_cons_of_solid others solid
                refine ⟨?_, by simp [target]⟩
                rw [Text.trim, Text.trimChars, String.toList_ofList, target,
                  Text.trimStart_eq_self solid, ← target, Text.trimEnd_trimEnd]
        · cases tagged
      · rw [taggedHere?_of_ne opens] at tagged
        cases tagged

theorem tagged?_target (tagged : tagged? text = some link) :
    Text.trim link.target = link.target ∧ link.target ≠ "" := by
  induction text with
  | nil => cases tagged
  | cons c rest ih =>
      simp only [tagged?] at tagged
      cases here : taggedHere? (c :: rest) with
      | none =>
          rw [here] at tagged
          exact ih tagged
      | some found =>
          rw [here] at tagged
          cases tagged
          exact taggedHere?_target here

theorem kind_bare {base : Option FilePath} {kind : LinkKind} (leads : link.kind base = .ok kind) :
    ∃ found, (bare link.target).kind none = .ok found := by
  have target : (bare link.target).target = link.target := rfl
  simp only [Link.kind, target] at leads ⊢
  split at leads
  · cases leads
  · rename_i solid
    rw [if_neg solid]
    split at leads
    · exact ⟨kind, leads⟩
    · exact ⟨_, rfl⟩

/-- A scan takes the first links of a text, as many as the limit lets it. -/
theorem extract_eq (text : List Char) (limit : Nat) :
    extract text limit = Scan.ofLinks limit (allLinks text) := by
  simp only [extract, allLinks, takeCapped_eq]
  cases tagged : taggedOf (Text.readLines text) with
  | nil => simp [Scan.ofLinks]
  -- Where there is a tagged link the scan takes one or says that it left one out.
  | cons link rest => cases limit <;> simp [Scan.ofLinks]

theorem allLinks_of_ne_nil (some : taggedOf (Text.readLines text) ≠ []) :
    allLinks text = taggedOf (Text.readLines text) := by
  simp only [allLinks, List.isEmpty_eq_false_iff.mpr some, Bool.false_eq_true, if_false]

theorem taggedOf_endedLines (row : List (List Char)) :
    taggedOf (Text.endedLines row) = taggedOf (row.map dropReturn) := by
  induction row with
  | nil => rfl
  | cons piece rest ih =>
      cases rest with
      -- A scan takes the last piece with its carriage return, and not at all if it is empty.
      | nil =>
          have same := tagged?_dropReturn piece
          cases piece with
          | nil => rfl
          | cons c others =>
              simp [Text.endedLines, taggedOf, List.filterMap_cons, same]
      | cons next others =>
          simp only [taggedOf] at ih ⊢
          simp only [Text.endedLines, List.map_cons, List.filterMap_cons] at ih ⊢
          rw [ih]

end Link

theorem map_filter_isSome {α β : Type} (keep : α → Option β) (row : List α) :
    (row.filter fun element => (keep element).isSome).map keep =
      (row.filterMap keep).map some := by
  induction row with
  | nil => rfl
  | cons first rest ih => cases kept : keep first <;> simp [kept, ih]

theorem filterMap_range {α β : Type} (keep : α → Option β) (row : List α) :
    (List.range row.length).filterMap (fun place => row[place]?.bind keep) =
      row.filterMap keep := by
  induction row with
  | nil => rfl
  | cons first rest ih =>
      rw [List.length_cons, List.range_succ_eq_map, List.filterMap_cons, List.filterMap_map,
        List.filterMap_cons, ← ih]
      rfl

namespace Document

variable {document : Document} {link : Link} {line rank : Nat}

def taggedAt? (document : Document) (line : Nat) : Option Link :=
  (document.line? line).bind Link.tagged?

/-- The lines with a tagged link, from the first to the last. -/
def taggedLines (document : Document) : List Nat :=
  (List.range document.lineCount).filter fun line => (document.taggedAt? line).isSome

theorem filterMap_taggedAt? (document : Document) :
    (List.range document.lineCount).filterMap document.taggedAt? =
      Link.taggedOf (Text.readLines document.text.toList) := by
  have places := filterMap_range Link.tagged? ((rawLines document.text).map dropReturn)
  rw [List.length_map] at places
  rw [Text.readLines, Link.taggedOf_endedLines, Link.taggedOf, ← rawLines, ← places]
  simp only [lineCount, List.getElem?_map]
  rfl

theorem taggedLines_links (document : Document) :
    document.taggedLines.map document.taggedAt? =
      (Link.taggedOf (Text.readLines document.text.toList)).map some := by
  rw [taggedLines, map_filter_isSome, filterMap_taggedAt?]

theorem taggedLines_length (document : Document) :
    (Link.taggedOf (Text.readLines document.text.toList)).length =
      document.taggedLines.length := by
  have lengths := congrArg List.length (taggedLines_links document)
  simpa using lengths.symm

theorem tagged_of_rank (ranked : document.taggedLines[rank]? = some line)
    (tagged : document.taggedAt? line = some link) :
    (Link.taggedOf (Text.readLines document.text.toList))[rank]? = some link := by
  have same := congrArg (fun row => row[rank]?) (taggedLines_links document)
  simp only [List.getElem?_map, ranked, Option.map_some, tagged] at same
  obtain ⟨found, there, here⟩ := Option.map_eq_some_iff.mp same.symm
  rw [there, Option.some.inj here]

/-- Where a text has several tagged links and a scan leaves none out, the user is asked, and an
answer is taken for the link of the line of that rank. -/
theorem choose_ranked (answer : Prompt → Option Nat) {limit : Nat}
    (several : 2 ≤ document.taggedLines.length) (few : document.taggedLines.length ≤ limit)
    (ranked : document.taggedLines[rank]? = some line)
    (tagged : document.taggedAt? line = some link)
    (answered : ∀ prompt, answer prompt = some rank) :
    ∃ prompt, Link.choose document.text.toList limit answer = (.resolved link, some prompt) := by
  have found := tagged_of_rank ranked tagged
  rw [← taggedLines_length] at several few
  have some : Link.taggedOf (Text.readLines document.text.toList) ≠ [] := by
    rw [← List.length_pos_iff]
    exact Nat.lt_of_lt_of_le Nat.zero_lt_two several
  have scan : (Link.extract document.text.toList limit).links =
      Link.taggedOf (Text.readLines document.text.toList) := by
    rw [Link.extract_eq, Link.allLinks_of_ne_nil some]
    exact List.take_of_length_le few
  simp only [Link.choose, scan]
  generalize Link.taggedOf (Text.readLines document.text.toList) = links at several found
  cases links with
  | nil => simp at several
  | cons first rest =>
      cases rest with
      | nil => simp at several
      | cons second others =>
          refine ⟨Link.promptFor (first :: second :: others), ?_⟩
          simp only [Link.chosen, answered, Option.bind_some, found]

end Document

end LiveSelector
