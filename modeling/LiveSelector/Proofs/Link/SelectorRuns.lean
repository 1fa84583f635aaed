import LiveSelector.Link.Scan
import LiveSelector.Proofs.Link.Parts

namespace LiveSelector.Link

/-! Runs of path characters in front of a brace, a bracket, an at sign or a bar.  Such a run is part
of a selector, and a path that ends where the run ends is left out of the scan.  A path ends behind
the last extension of the run, though, and where the run goes on behind that one it is not the brace
that follows the path: the front part of the run is taken for a link. -/

variable {c : Char} {text front tail rest before run after page : List Char} {length : Nat}
  {found : Found}

/-! ### The last extension of a run -/

/-- A text ends in a page's extension, which what stands behind it leaves a whole word. -/
def EndsInExtension (front tail : List Char) : Prop :=
  ∃ name, ∃ extension ∈ pageExtensions, front = name ++ extension ∧ endsWord tail = true

/-- A text ends in a page's extension and does not begin with it. -/
def IsPage (page tail : List Char) : Prop :=
  ∃ first front, page = first :: front ∧ EndsInExtension front tail

/-- A run cut behind the last extension in it that makes a page of what stands before. -/
structure LastPage (run page tail : List Char) : Prop where
  cut : run = page ++ tail
  ends : IsPage page tail
  last : ∀ {page' tail'}, run = page' ++ tail' → IsPage page' tail' → page'.length ≤ page.length

theorem length_of_mem_pageExtensions {extension : List Char} (member : extension ∈ pageExtensions) :
    4 ≤ extension.length ∧ extension.length ≤ 5 := by
  have all : ∀ extension ∈ pageExtensions, 4 ≤ extension.length ∧ extension.length ≤ 5 := by decide
  exact all extension member

theorem EndsInExtension.length_le (ends : EndsInExtension front tail) : 4 ≤ front.length := by
  obtain ⟨name, extension, member, rfl, _⟩ := ends
  have enough := (length_of_mem_pageExtensions member).1
  rw [List.length_append]
  omega

theorem EndsInExtension.append (ends : EndsInExtension front tail) (more : List Char) :
    EndsInExtension (more ++ front) tail := by
  obtain ⟨name, extension, member, rfl, whole⟩ := ends
  exact ⟨more ++ name, extension, member, (List.append_assoc ..).symm, whole⟩

theorem endsInExtension_of_reach (reach : extensionReach? text = some length) :
    EndsInExtension (text.take length) (text.drop length) := by
  induction text generalizing length with
  | nil => cases reach
  | cons c rest ih =>
      simp only [extensionReach?] at reach
      split at reach
      · split at reach
        · rename_i behind
          cases reach
          exact (ih behind).append [c]
        · obtain ⟨extension, member, after, same, whole, rfl⟩ := extensionHere?_eq_some_iff.mp reach
          rw [same, List.take_left, List.drop_left]
          exact ⟨[], extension, member, rfl, whole⟩
      · cases reach

/-- Where path characters end in an extension, one is reached, there or further on. -/
theorem reach_of_endsInExtension (path : ∀ c ∈ front, isPathChar c = true)
    (ends : EndsInExtension front tail) :
    ∃ length, extensionReach? (front ++ tail) = some length ∧ front.length ≤ length := by
  obtain ⟨name, extension, member, rfl, whole⟩ := ends
  induction name with
  | nil =>
      rw [List.nil_append] at path ⊢
      have here : extensionHere? (extension ++ tail) = some extension.length :=
        extensionHere?_eq_some_iff.mpr ⟨extension, member, tail, rfl, whole, rfl⟩
      obtain ⟨least, most⟩ := length_of_mem_pageExtensions member
      cases extension with
      | nil => simp at least
      | cons c others =>
          rw [List.cons_append] at here ⊢
          simp only [extensionReach?, path c (List.mem_cons_self ..), if_true]
          cases behind : extensionReach? (others ++ tail) with
          | none => exact ⟨_, here, Nat.le_refl _⟩
          | some further =>
              have enough := (endsInExtension_of_reach behind).length_le
              rw [List.length_take] at enough
              exact ⟨further + 1, rfl, by omega⟩
  | cons c others ih =>
      obtain ⟨further, behind, within⟩ := ih fun d member => path d (List.mem_cons_of_mem _ member)
      refine ⟨further + 1, ?_, Nat.succ_le_succ within⟩
      have first := path c (List.mem_cons_self ..)
      simp only [List.cons_append, extensionReach?, first, if_true]
      rw [behind]

/-- A page in a run of path characters is no longer than what is reached from the second character
on. -/
theorem reach_of_isPage (path : ∀ d ∈ c :: rest, isPathChar d = true)
    (cut : c :: rest = page ++ tail) (ends : IsPage page tail) :
    ∃ length, extensionReach? rest = some length ∧ page.length ≤ length + 1 := by
  obtain ⟨first, front, rfl, extension⟩ := ends
  obtain ⟨_, rfl⟩ := List.cons.inj cut
  have inside : ∀ d ∈ front, isPathChar d = true := fun d member =>
    path d (List.mem_cons_of_mem _ (List.mem_append_left _ member))
  obtain ⟨length, reach, within⟩ := reach_of_endsInExtension inside extension
  exact ⟨length, reach, Nat.succ_le_succ within⟩

theorem lastPage_of_pathHere? (path : ∀ c ∈ run, isPathChar c = true)
    (here : pathHere? run = some page) : ∃ tail, LastPage run page tail := by
  cases run with
  | nil => cases here
  | cons c rest =>
      simp only [pathHere?, path c (List.mem_cons_self ..), if_true] at here
      obtain ⟨length, reach, rfl⟩ := Option.map_eq_some_iff.mp here
      have bound := (extensionReach?_path reach).1
      refine ⟨rest.drop length, by simp, ⟨c, _, rfl, endsInExtension_of_reach reach⟩, ?_⟩
      intro page' tail' cut ends
      obtain ⟨other, again, within⟩ := reach_of_isPage path cut ends
      cases reach.symm.trans again
      simpa [bound] using within

theorem not_isPage_of_pathHere? (path : ∀ c ∈ run, isPathChar c = true)
    (none : pathHere? run = none) (cut : run = page ++ tail) : ¬ IsPage page tail := by
  intro ends
  cases run with
  | nil =>
      obtain ⟨first, front, rfl, _⟩ := ends
      cases cut
  | cons c rest =>
      obtain ⟨length, reach, _⟩ := reach_of_isPage path cut ends
      simp [pathHere?, path c (List.mem_cons_self ..), reach] at none

theorem LastPage.unique {page' tail' : List Char} (one : LastPage run page tail)
    (other : LastPage run page' tail') : page = page' ∧ tail = tail' :=
  List.append_inj (one.cut.symm.trans other.cut)
    (Nat.le_antisymm (other.last one.cut one.ends) (one.last other.cut other.ends))

theorem LastPage.quiet (last : LastPage run page tail) : extensionReach? tail = none := by
  cases reach : extensionReach? tail with
  | none => rfl
  | some length =>
      -- One that is reached there would make a longer page of the same run.
      have ends := endsInExtension_of_reach reach
      obtain ⟨first, front, rfl, _⟩ := last.ends
      have longer : IsPage (first :: front ++ tail.take length) (tail.drop length) :=
        ⟨first, front ++ tail.take length, rfl, ends.append front⟩
      have within := last.last (by rw [List.append_assoc, List.take_append_drop, last.cut]) longer
      have enough := ends.length_le
      rw [List.length_append] at within
      omega

/-! ### The scan of a line with a run in it -/

/-- A link of the line begins in its front part and takes in the start of the rest. -/
def Overruns (before rest : List Char) : Prop :=
  ∃ found ∈ foundFrom 0 (before ++ rest),
    rest.length < found.width ∧ found.after.length < rest.length

/-- A run of path characters, as long as it can be and without the mark of a URL, that goes on with
a selector at once. -/
structure SelectorRun (before run after : List Char) : Prop where
  path : ∀ c ∈ run, isPathChar c = true
  widest : ∀ c ∈ before.getLast?, isPathChar c = false
  noScheme : ¬ "://".toList <:+: run
  followed : ∃ next others, after = next :: others ∧ next ∈ ['{', '[', '@', '|']

/-- A link that takes in the start of a run is a URL, and runs beyond the run and what follows it. -/
theorem SelectorRun.after_overrun {passed head tail rest : List Char}
    (selector : SelectorRun before run after) (front : before = passed ++ head)
    (back : run ++ after = tail ++ rest) (begun : head ≠ [])
    (here : bareHere? (head ++ tail ++ rest) = some (head ++ tail)) :
    rest.length ≤ after.length := by
  have plain : ∀ c ∈ head.getLast?, isPathChar c = false := fun c last => by
    refine selector.widest c ?_
    rw [front, List.getLast?_append_of_ne_nil _ begun]
    exact last
  have url : urlHere? (head ++ tail ++ rest) = some (head ++ tail) := by
    rcases bareHere?_eq_some_iff.mp here with url | ⟨_, path⟩
    · exact url
    · obtain ⟨_, _, _, all⟩ := pathHere?_split path
      have last := List.getLast_mem begun
      have := plain _ (List.getLast?_eq_some_getLast begun)
      rw [all _ (List.mem_append_left _ last)] at this
      cases this
  obtain ⟨_, same, _, ends⟩ := urlHere?_split url
  cases List.append_cancel_left same
  rcases List.append_eq_append_iff.mp back with ⟨more, rfl, rfl⟩ | ⟨more, cut, rfl⟩
  · rw [List.length_append]
    exact Nat.le_add_left ..
  · cases more with
    | nil => exact Nat.le_refl _
    -- Otherwise the URL would have ended at a path character.
    | cons c others =>
        have path := selector.path c (cut ▸ by simp)
        rw [isPathChar_eq_false_of_endsUrl (ends c rfl)] at path
        cases path

theorem urlHere?_of_noScheme (noScheme : ¬ "://".toList <:+: run) (stop : isPathChar c = false)
    (rest : List Char) : urlHere? (run ++ c :: rest) = none := by
  cases here : urlHere? (run ++ c :: rest) with
  | none => rfl
  | some url =>
      obtain ⟨start, member, found⟩ := urlHere?_eq_some here
      have absent : c ∉ start := not_mem_of_paths stop (isPathChar_of_mem_urlStarts member)
      have begins := (prefix_append_stop absent).mp (urlAfter?_eq_some found).2.1
      have schemes : ∀ start ∈ urlStarts, "://".toList <:+ start := by decide
      exact absurd ((schemes start member).isInfix.trans begins.isInfix) noScheme

theorem bareHere?_of_noScheme (noScheme : ¬ "://".toList <:+: run) (stop : isPathChar c = false)
    (rest : List Char) : bareHere? (run ++ c :: rest) = pathHere? run := by
  simp only [bareHere?, urlHere?_of_noScheme noScheme stop, pathHere?_append_stop stop]

theorem foundFrom_of_quiet (path : ∀ c ∈ run, isPathChar c = true)
    (noScheme : ¬ "://".toList <:+: run) (stop : isPathChar c = false)
    (quiet : extensionReach? run = none) (rest : List Char) :
    foundFrom 0 (run ++ c :: rest) = foundFrom 0 (c :: rest) := by
  induction run with
  | nil => rfl
  | cons d others ih =>
      have first := path d (List.mem_cons_self ..)
      have later : extensionReach? others = none := by
        simp only [extensionReach?, first, if_true] at quiet
        cases reach : extensionReach? others with
        | none => rfl
        | some length => rw [reach] at quiet; cases quiet
      have here := bareHere?_of_noScheme noScheme stop rest
      simp only [pathHere?, first, later, if_true, Option.map_none, List.cons_append] at here
      rw [List.cons_append, foundFrom_of_none here]
      exact ih (fun e member => path e (List.mem_cons_of_mem _ member))
        (fun inside => noScheme (inside.trans (List.suffix_cons ..).isInfix)) later

theorem isPathChar_of_continuation (member : c ∈ ['{', '[', '@', '|']) : isPathChar c = false := by
  have marks : ['{', '[', '@', '|'].any isPathChar = false := by decide
  exact Bool.eq_false_iff.mpr (List.any_eq_false.mp marks c member)

/-- The scan of a run from its start takes its last page, if there is one, and nothing else. -/
theorem SelectorRun.foundFrom_run (selector : SelectorRun before run after) :
    ((∀ page tail, ¬ LastPage run page tail) ∧
        foundFrom 0 (run ++ after) = foundFrom 0 after) ∨
      ∃ page tail, LastPage run page tail ∧
        foundFrom 0 (run ++ after) = ⟨page, tail ++ after⟩ :: foundFrom 0 after := by
  obtain ⟨path, _, noScheme, next, others, rfl, continuation⟩ := selector
  have stop := isPathChar_of_continuation continuation
  have place := bareHere?_of_noScheme noScheme stop others
  cases here : pathHere? run with
  | none =>
      refine .inl ⟨fun page tail last => not_isPage_of_pathHere? path here last.cut last.ends, ?_⟩
      cases run with
      | nil => rfl
      | cons c rest =>
          have later : extensionReach? rest = none := by
            simpa [pathHere?, path c (List.mem_cons_self ..)] using here
          rw [here, List.cons_append] at place
          rw [List.cons_append, foundFrom_of_none place]
          exact foundFrom_of_quiet (fun d member => path d (List.mem_cons_of_mem _ member))
            (fun inside => noScheme (inside.trans (List.suffix_cons ..).isInfix)) stop later others
  | some page =>
      obtain ⟨tail, last⟩ := lastPage_of_pathHere? path here
      obtain rfl := last.cut
      rw [here, List.append_assoc] at place
      refine .inr ⟨page, tail, last, ?_⟩
      rw [List.append_assoc, foundFrom_of_some place]
      refine congrArg _ (foundFrom_of_quiet ?_ ?_ stop last.quiet others)
      · exact fun c member => path c (List.mem_append_right _ member)
      · exact fun inside => noScheme (inside.trans (List.suffix_append ..).isInfix)

/-! ### What a run contributes -/

/-- What stands before a run matters to it only where a URL takes in its start, which leaves it no
link. -/
theorem SelectorRun.linksIn_cases (selector : SelectorRun before run after) :
    Overruns before (run ++ after) ∧ linksIn before run after = [] ∨
      ¬ Overruns before (run ++ after) ∧ linksIn before run after = linksIn [] run after := by
  obtain ⟨first, ended, scan⟩ := foundFrom_append_cases before (run ++ after)
  have front : ∀ found ∈ first, found.beginsIn run after = false := fun found member =>
    beginsIn_of_wider (width_of_ended (ended found member).1 (ended found member).2)
  rcases scan with arrives | ⟨passed, head, tail, rest, cut, back, begun, taken, here, jumps⟩
  · refine .inr ⟨?_, ?_⟩
    · rintro ⟨found, member, begins, reaches⟩
      rw [arrives] at member
      rcases List.mem_append.mp member with earlier | later
      · exact absurd (ended found earlier).2 (Nat.not_le.mpr reaches)
      · exact absurd (width_le_of_mem_foundFrom later).2 (Nat.not_le.mpr begins)
    · rw [linksIn_eq first _ [] (by rw [List.append_nil]; exact arrives) front (by simp)]
      rfl
  · have wider : (run ++ after).length < Found.width ⟨head ++ tail, rest⟩ := by
      have := List.length_pos_iff.mpr begun
      simp only [Found.width, back, List.length_append]
      omega
    have shorter : rest.length < (run ++ after).length := by
      have := List.length_pos_iff.mpr taken
      rw [back, List.length_append]
      omega
    refine .inl ⟨⟨⟨head ++ tail, rest⟩, jumps ▸ by simp, wider, shorter⟩, ?_⟩
    rw [linksIn_eq first [] (⟨head ++ tail, rest⟩ :: foundFrom 0 rest) jumps front]
    · rfl
    · intro found member
      rcases List.mem_cons.mp member with rfl | later
      · exact beginsIn_of_wider wider
      · exact beginsIn_of_mem_behind later (selector.after_overrun cut back begun here)

theorem SelectorRun.continues (selector : SelectorRun before run after) :
    continuesSelector after = true := by
  obtain ⟨next, others, rfl, continuation⟩ := selector.followed
  simpa [continuesSelector] using continuation

theorem SelectorRun.not_continues (selector : SelectorRun before run after)
    (cut : run = page ++ c :: rest) : continuesSelector (c :: rest ++ after) = false := by
  have path := selector.path c (cut ▸ by simp)
  have plain : c ∉ ['{', '[', '@', '|'] := fun member => by
    rw [isPathChar_of_continuation member] at path
    cases path
  simpa [continuesSelector] using plain

theorem SelectorRun.linksIn_start (selector : SelectorRun before run after)
    (last : LastPage run page tail) :
    linksIn [] run after = if tail = [] then [] else [bare (.ofList page)] := by
  rcases selector.foundFrom_run with ⟨none, _⟩ | ⟨page', tail', last', scan⟩
  · exact absurd last (none page tail)
  · obtain ⟨rfl, rfl⟩ := last.unique last'
    have here : Found.beginsIn run after ⟨page, tail ++ after⟩ = true := by
      obtain ⟨first, front, rfl, _⟩ := last.ends
      rw [beginsIn_iff, last.cut]
      simp [Found.width]
      omega
    rw [linksIn_eq [] [⟨page, tail ++ after⟩] (foundFrom 0 after) scan (by simp)
      fun found member => beginsIn_of_mem_behind member (Nat.le_refl _)]
    cases tail with
    | nil => simp [selector.continues]
    | cons c rest =>
        have kept := selector.not_continues last.cut
        rw [List.filter_cons, kept, here]
        rfl

theorem SelectorRun.linksIn_start_of_none (selector : SelectorRun before run after)
    (none : ∀ page tail, ¬ LastPage run page tail) : linksIn [] run after = [] := by
  rcases selector.foundFrom_run with ⟨_, scan⟩ | ⟨page, tail, last, _⟩
  · rw [linksIn_eq [] [] (foundFrom 0 after) scan (by simp)
      fun found member => beginsIn_of_mem_behind member (Nat.le_refl _)]
    rfl
  · exact absurd last (none page tail)

/-- The links of a line are those of what stands before a run, of the run and of what stands behind
it.  A run of path characters that goes on with a selector has no link if and only if a URL that
begins before it takes in its start, or its last extension, where it has one, is its end.  Otherwise
it has one link, the run up to its last extension. -/
theorem linksIn_selectorRun (selector : SelectorRun before run after) :
    bareLinks (before ++ (run ++ after)) =
        linksIn [] before (run ++ after) ++
          (linksIn before run after ++ linksIn (before ++ run) after []) ∧
      (linksIn before run after = [] ↔
        Overruns before (run ++ after) ∨ ∀ page tail, LastPage run page tail → tail = []) ∧
      ∀ page tail, LastPage run page tail → tail ≠ [] → ¬ Overruns before (run ++ after) →
        linksIn before run after = [bare (.ofList page)] := by
  refine ⟨bareLinks_parts before run after, ?_⟩
  rcases selector.linksIn_cases with ⟨overrun, links⟩ | ⟨arrives, links⟩
  · exact ⟨iff_of_true links (.inl overrun), fun _ _ _ _ arrives => absurd overrun arrives⟩
  · have one : ∀ page tail, LastPage run page tail → tail ≠ [] →
        linksIn before run after = [bare (.ofList page)] := fun page tail last goesOn => by
      rw [links, selector.linksIn_start last, if_neg goesOn]
    refine ⟨⟨fun empty => .inr fun page tail last => ?_, ?_⟩, fun page tail last goesOn _ =>
      one page tail last goesOn⟩
    · by_contra goesOn
      rw [one page tail last goesOn] at empty
      cases empty
    · rintro (overrun | ends)
      · exact absurd overrun arrives
      · by_cases some : ∃ page tail, LastPage run page tail
        · obtain ⟨page, tail, last⟩ := some
          rw [links, selector.linksIn_start last, if_pos (ends page tail last)]
        · rw [links, selector.linksIn_start_of_none fun page tail last => some ⟨page, tail, last⟩]

theorem noScheme_of_no_slash (absent : '/' ∉ run) : ¬ "://".toList <:+: run :=
  fun inside => absent (inside.subset (by decide))

/-- One run inside a URL, and one whose second extension is its last but not its end. -/
theorem linksIn_two_runs :
    let url := "http://q\x7b".toList
    let covered := "x.htm.y".toList
    let behind := "@ p.html.htm-z[c]".toList
    let front := "http://q\x7bx.htm.y@ ".toList
    let run := "p.html.htm-z".toList
    (SelectorRun url covered behind ∧ Overruns url (covered ++ behind) ∧
        linksIn url covered behind = []) ∧
      SelectorRun front run "[c]".toList ∧ LastPage run "p.html.htm".toList "-z".toList ∧
      ¬ Overruns front (run ++ "[c]".toList) ∧
      linksIn front run "[c]".toList = [bare "p.html.htm"] := by
  intro url covered behind front run
  have first : SelectorRun url covered behind := by
    refine ⟨List.all_eq_true.mp (by decide), ?_, noScheme_of_no_slash (by decide), '@',
      " p.html.htm-z[c]".toList, rfl, by decide⟩
    rintro _ ⟨⟩
    decide
  have second : SelectorRun front run "[c]".toList := by
    refine ⟨List.all_eq_true.mp (by decide), ?_, noScheme_of_no_slash (by decide), '[',
      "c]".toList, rfl, by decide⟩
    rintro _ ⟨⟩
    decide
  have overrun : Overruns url (covered ++ behind) := by
    unfold Overruns
    decide
  have arrives : ¬ Overruns front (run ++ "[c]".toList) := by
    unfold Overruns
    decide
  have last : LastPage run "p.html.htm".toList "-z".toList := by
    obtain ⟨tail, last⟩ := lastPage_of_pathHere? second.path
      (show pathHere? run = some "p.html.htm".toList by decide)
    have rest : tail = "-z".toList := List.append_cancel_left (last.cut.symm.trans rfl)
    exact rest ▸ last
  exact ⟨⟨first, overrun, (linksIn_selectorRun first).2.1.mpr (.inl overrun)⟩, second, last, arrives,
    (linksIn_selectorRun second).2.2 _ _ last (by decide) arrives⟩

/-- A class behind an extension: the part of a class chain up to there is taken for a link. -/
theorem chained_class_taken :
    tagged? "div.html.a{text}".toList = none ∧
      SelectorRun [] "div.html.a".toList "{text}".toList ∧
      linksIn [] "div.html.a".toList "{text}".toList = [bare "div.html"] ∧
      bareLinks "div.html.a{text}".toList = [bare "div.html"] := by
  have selector : SelectorRun [] "div.html.a".toList "{text}".toList :=
    ⟨List.all_eq_true.mp (by decide), by simp, noScheme_of_no_slash (by decide), '{',
      "text\x7d".toList, rfl, by decide⟩
  exact ⟨by decide, selector, by decide, by decide⟩

end LiveSelector.Link
