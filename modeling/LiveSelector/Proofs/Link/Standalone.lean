import LiveSelector.Proofs.Link.Places
import LiveSelector.Proofs.Link.Scanning

namespace LiveSelector.Link

/-! URLs that stand alone.  The characters that end a URL cut a text into pieces, and no link
without a label reaches from one piece into the next: the links of a text are those of its pieces,
one piece after the other.  A piece that is a URL as a whole has that URL as its only link. -/

open Text (readLines pieces joinPieces endedLines dropReturn)

variable {c : Char} {text rest chars after : List Char}

theorem bareLinks_of_none (none : bareHere? (c :: rest) = none) :
    bareLinks (c :: rest) = bareLinks rest := by
  rw [bareLinks_eq, bareLinks_eq, foundFrom_of_none none]

theorem bareLinks_of_some (some : bareHere? (chars ++ after) = some chars) :
    bareLinks (chars ++ after) =
      (if continuesSelector after then [] else [bare (.ofList chars)]) ++ bareLinks after := by
  rw [bareLinks_eq, bareLinks_eq, foundFrom_of_some some, List.filter_cons]
  cases continuesSelector after <;> rfl

theorem continuesSelector_append_stop (stop : endsUrl c = true) (text back : List Char) :
    continuesSelector (text ++ c :: back) = continuesSelector text := by
  cases text with
  | nil =>
      have marks : ['{', '[', '@', '|'].any endsUrl = false := by decide
      have other : c ∉ ['{', '[', '@', '|'] := fun member =>
        List.any_eq_false.mp marks c member stop
      simpa [continuesSelector] using other
  | cons d others => rfl

theorem bareLinks_append_stop (stop : endsUrl c = true) (text back : List Char) :
    bareLinks (text ++ c :: back) = bareLinks text ++ bareLinks back := by
  induction text using scan_induction with
  | nil => exact bareLinks_of_none (bareHere?_of_stop stop back)
  | pass d rest none ih =>
      have passed : bareHere? (d :: (rest ++ c :: back)) = Option.none := by
        rw [← List.cons_append, bareHere?_append_stop stop, none]
      rw [List.cons_append, bareLinks_of_none passed, bareLinks_of_none none, ih]
  | take chars after _ some ih =>
      have taken : bareHere? (chars ++ (after ++ c :: back)) = Option.some chars := by
        rw [← List.append_assoc, bareHere?_append_stop stop, some]
      rw [List.append_assoc, bareLinks_of_some taken, bareLinks_of_some some,
        continuesSelector_append_stop stop, ih, List.append_assoc]

/-! ### The pieces of a text -/

theorem bareLinks_pieces (text : List Char) :
    bareLinks text = (text.splitOnP endsUrl).flatMap bareLinks := by
  suffices split : ∀ front : List Char, (∀ c ∈ front, endsUrl c = false) →
      bareLinks (front ++ text) = ((front ++ text).splitOnP endsUrl).flatMap bareLinks from
    split [] (by simp)
  -- `front` is what has been read of a piece.
  induction text with
  | nil =>
      intro front clean
      rw [List.append_nil, List.splitOnP_eq_singleton clean, List.flatMap_singleton]
  | cons c rest ih =>
      intro front clean
      cases stop : endsUrl c with
      | true =>
          rw [bareLinks_append_stop stop, List.splitOnP_append_cons front rest stop,
            List.splitOnP_eq_singleton clean, List.flatMap_append, List.flatMap_singleton]
          exact congrArg _ (ih [] (by simp))
      | false =>
          have longer : ∀ d ∈ front ++ [c], endsUrl d = false := by
            simpa [stop, or_imp, forall_and] using clean
          have grown := ih (front ++ [c]) longer
          rwa [List.append_assoc, List.singleton_append] at grown

theorem bareLinks_dropReturn (piece : List Char) :
    bareLinks (dropReturn piece) = bareLinks piece := by
  rcases Text.dropReturn_append piece with whole | cut
  · rw [whole]
  · have split := bareLinks_append_stop (c := '\r') (by decide) (dropReturn piece) []
    rw [cut] at split
    exact (split.trans (List.append_nil _)).symm

theorem bareOf_endedLines (row : List (List Char)) :
    bareOf (endedLines row) = bareLinks (joinPieces '\n' row) := by
  induction row with
  | nil => rfl
  | cons piece others ih =>
      cases others with
      | nil =>
          cases piece with
          | nil => rfl
          | cons c rest => exact List.flatMap_singleton ..
      | cons next others =>
          have split := bareLinks_append_stop (c := '\n') (by decide) piece
            (joinPieces '\n' (next :: others))
          have joined : joinPieces '\n' (piece :: next :: others) =
              piece ++ '\n' :: joinPieces '\n' (next :: others) := rfl
          rw [joined, split, ← ih, ← bareLinks_dropReturn]
          rfl

/-- Line ends end URLs too, so that the links of all lines are those of the text taken as one
line. -/
theorem bareOf_readLines (text : List Char) : bareOf (readLines text) = bareLinks text := by
  rw [readLines, bareOf_endedLines, Text.joinPieces_pieces]

/-! ### Pieces that are URLs -/

/-- A text that begins like a URL and goes on behind the slashes. -/
def StandsAlone (piece : List Char) : Prop :=
  ∃ start ∈ urlStarts, ∃ c rest, piece = start ++ c :: rest

theorem urlHere?_of_standsAlone {piece : List Char} (alone : StandsAlone piece)
    (clean : ∀ c ∈ piece, endsUrl c = false) : urlHere? piece = some piece := by
  have found : (urlHere? piece).isSome := by
    obtain ⟨start, member, c, rest, rfl⟩ := alone
    have goesOn : (!endsUrl c) = true := by simp [clean c (by simp)]
    refine List.findSome?_isSome_iff.mpr ⟨start, member, ?_⟩
    simp [urlAfter?, goesOn]
  obtain ⟨url, here⟩ := Option.isSome_iff_exists.mp found
  obtain ⟨after, same, _, ends⟩ := urlHere?_split here
  -- Nothing in the piece could have ended the URL.
  cases after with
  | nil => rw [here, same, List.append_nil]
  | cons d others =>
      have plain := clean d (same ▸ by simp)
      rw [ends d rfl] at plain
      cases plain

theorem bareLinks_of_standsAlone {piece : List Char} (alone : StandsAlone piece)
    (clean : ∀ c ∈ piece, endsUrl c = false) : bareLinks piece = [bare (.ofList piece)] := by
  have here : bareHere? (piece ++ []) = some piece := by
    rw [List.append_nil]
    exact bareHere?_eq_some_iff.mpr (.inl (urlHere?_of_standsAlone alone clean))
  have links := bareLinks_of_some here
  rwa [List.append_nil] at links

theorem endsUrl_of_mem_splitOnP {piece : List Char} (member : piece ∈ text.splitOnP endsUrl) :
    ∀ c ∈ piece, endsUrl c = false := by
  induction text generalizing piece with
  | nil =>
      rw [List.splitOnP_nil, List.mem_singleton] at member
      simp [member]
  | cons c rest ih =>
      rw [List.splitOnP_cons_eq_if_modifyHead] at member
      split at member
      · rcases List.mem_cons.mp member with rfl | later
        · simp
        · exact ih later
      · rename_i plain
        obtain ⟨first, others, cut⟩ :=
          List.exists_cons_of_ne_nil (List.splitOnP_ne_nil endsUrl rest)
        rw [cut] at member ih
        rcases List.mem_cons.mp member with rfl | later
        · have clean := ih (List.mem_cons_self ..)
          simpa [plain] using clean
        · exact ih (List.mem_cons_of_mem _ later)

/-- In a text without tagged links a piece that stands alone as a URL is one link, whole and in its
place: behind the links of the pieces before it and ahead of those of the pieces behind it.  A scan
takes it if and only if fewer links than the limit precede it. -/
theorem standsAlone_found {before after : List (List Char)} {piece : List Char}
    (untagged : ∀ line ∈ readLines text, tagged? line = none)
    (cut : text.splitOnP endsUrl = before ++ piece :: after) (alone : StandsAlone piece) :
    let earlier := before.flatMap bareLinks
    bareOf (readLines text) =
        earlier ++ bare (.ofList piece) :: after.flatMap bareLinks ∧
      ∀ limit, (extract text limit).links[earlier.length]? = some (bare (.ofList piece)) ↔
        earlier.length < limit := by
  intro earlier
  have member : piece ∈ text.splitOnP endsUrl := by simp [cut]
  have clean := endsUrl_of_mem_splitOnP member
  have links : bareOf (readLines text) =
      earlier ++ bare (.ofList piece) :: after.flatMap bareLinks := by
    rw [bareOf_readLines, bareLinks_pieces, cut, List.flatMap_append, List.flatMap_cons,
      bareLinks_of_standsAlone alone clean]
    rfl
  refine ⟨links, fun limit => ?_⟩
  have there : (allLinks text)[earlier.length]? = some (bare (.ofList piece)) := by
    rw [allLinks_of_untagged untagged, links]
    simp
  rw [extract_eq, Scan.ofLinks, List.getElem?_take, there]
  simp

/-- A URL in quotation marks, with a path before it and once more behind another letter. -/
theorem quoted_url_found :
    let text := "a.html \"http://x/{a}\" yhttp://x/{a}\np.html|q".toList
    (∀ line ∈ readLines text, tagged? line = none) ∧
      text.splitOnP endsUrl = ["a.html".toList, []] ++ "http://x/{a}".toList ::
        [[], "yhttp://x/{a}".toList, "p.html|q".toList] ∧
      StandsAlone "http://x/{a}".toList ∧
      bareOf (readLines text) = [bare "a.html", bare "http://x/{a}", bare "http://x/{a}"] ∧
      (extract text 2).links[1]? = some (bare "http://x/{a}") ∧
      (extract text 1).links[1]? ≠ some (bare "http://x/{a}") := by
  intro text
  have untagged : ∀ line ∈ readLines text, tagged? line = none := by decide
  have cut : text.splitOnP endsUrl = ["a.html".toList, []] ++ "http://x/{a}".toList ::
      [[], "yhttp://x/{a}".toList, "p.html|q".toList] := by decide
  have alone : StandsAlone "http://x/{a}".toList :=
    ⟨"http://".toList, by decide, 'x', "/{a}".toList, rfl⟩
  obtain ⟨links, taken⟩ := standsAlone_found untagged cut alone
  have one : (["a.html".toList, []].flatMap bareLinks).length = 1 := by decide
  rw [one] at taken
  exact ⟨untagged, cut, alone, links.trans (by decide), (taken 2).mpr (by omega),
    fun there => absurd ((taken 1).mp there) (by omega)⟩

end LiveSelector.Link
