import LiveSelector.Link.Bare
import Mathlib.Data.List.Basic

namespace LiveSelector.Link

/-! What can begin at one place of a line.  A link without a label is a part of the text from its
first character on, never empty; a URL goes on to a character that ends URLs, and a path consists of
path characters alone.  Characters that end a URL are no path characters, so neither kind of link
can be told to go on by what stands behind one. -/

open Text (isBlank isWord)

variable {c : Char} {start text rest chars back : List Char} {length : Nat}

/-- Every blank, by its code point. -/
def blankPoints : List Nat :=
  [9, 10, 11, 12, 13, 0x20, 0x85, 0xA0, 0x1680, 0x2000, 0x2001, 0x2002, 0x2003, 0x2004, 0x2005,
    0x2006, 0x2007, 0x2008, 0x2009, 0x200A, 0x2028, 0x2029, 0x202F, 0x205F, 0x3000]

theorem mem_blankPoints_of_isBlank (blank : isBlank c = true) : c.toNat ∈ blankPoints := by
  simp only [isBlank, Bool.or_eq_true, Bool.and_eq_true, decide_eq_true_eq, beq_iff_eq] at blank
  simp only [blankPoints, List.mem_cons, List.not_mem_nil, or_false]
  omega

theorem isWord_eq_false_of_isBlank (blank : isBlank c = true) : isWord c = false := by
  have all : ∀ point ∈ blankPoints, isWord (Char.ofNat point) = false := by decide +kernel
  have here := all c.toNat (mem_blankPoints_of_isBlank blank)
  rwa [Char.ofNat_toNat] at here

theorem isPathChar_of_isWord (word : isWord c = true) : isPathChar c = true := by
  simp [isPathChar, word]

theorem isPathChar_eq_false_of_endsUrl (ends : endsUrl c = true) : isPathChar c = false := by
  simp only [endsUrl, Bool.or_eq_true, decide_eq_true_eq] at ends
  rcases ends with blank | mark
  · have others : ['.', '/', '\\', ':', '~', '-'].any isBlank = false := by decide
    have plain : c ∉ ['.', '/', '\\', ':', '~', '-'] := fun member =>
      List.any_eq_false.mp others c member blank
    simp [isPathChar, isWord_eq_false_of_isBlank blank, plain]
  · have marks : ['<', '>', '"', '\'', '\x60', ')'].any isPathChar = false := by decide
    exact Bool.eq_false_iff.mpr (List.any_eq_false.mp marks c mark)

theorem not_mem_of_paths (stop : isPathChar c = false) (path : ∀ d ∈ chars, isPathChar d) :
    c ∉ chars :=
  fun inside => Bool.eq_false_iff.mp stop (path c inside)

theorem isPathChar_of_mem_urlStarts (member : start ∈ urlStarts) : ∀ d ∈ start, isPathChar d := by
  have all : ∀ start ∈ urlStarts, start.all isPathChar = true := by decide
  exact List.all_eq_true.mp (all start member)

theorem takeWhile_append_stop {keep : Char → Bool} (stop : keep c = false) (text back : List Char) :
    (text ++ c :: back).takeWhile keep = text.takeWhile keep := by
  induction text with
  | nil => simp [stop]
  | cons d rest ih => simp only [List.cons_append, List.takeWhile_cons, ih]

/-- What begins a text does not reach over a character that it has not. -/
theorem isPrefixOf_append_stop (absent : c ∉ start) (text back : List Char) :
    start.isPrefixOf (text ++ c :: back) = start.isPrefixOf text := by
  induction start generalizing text with
  | nil => rfl
  | cons d others ih =>
      rw [List.mem_cons, not_or] at absent
      cases text with
      | nil => simp [List.isPrefixOf, Ne.symm absent.1]
      | cons e rest => simp only [List.cons_append, List.isPrefixOf, ih absent.2]

theorem prefix_append_stop (absent : c ∉ start) : start <+: text ++ c :: back ↔ start <+: text := by
  rw [← List.isPrefixOf_iff_prefix, isPrefixOf_append_stop absent, List.isPrefixOf_iff_prefix]

/-! ### URLs -/

theorem urlAfter?_eq_some (found : urlAfter? start text = some chars) :
    chars = start ++ (text.drop start.length).takeWhile (fun c => !endsUrl c) ∧
      start <+: text ∧ (text.drop start.length).takeWhile (fun c => !endsUrl c) ≠ [] := by
  simp only [urlAfter?] at found
  split at found
  · rename_i begins
    split at found
    · cases found
    · rename_i rest goesOn
      cases found
      exact ⟨rfl, List.isPrefixOf_iff_prefix.mp begins, goesOn⟩
  · cases found

theorem urlHere?_eq_some (found : urlHere? text = some chars) :
    ∃ start ∈ urlStarts, urlAfter? start text = some chars :=
  List.exists_of_findSome?_eq_some found

theorem urlHere?_split (found : urlHere? text = some chars) :
    ∃ after, text = chars ++ after ∧ chars ≠ [] ∧ ∀ c ∈ after.head?, endsUrl c = true := by
  obtain ⟨start, _, here⟩ := urlHere?_eq_some found
  obtain ⟨rfl, ⟨rest, rfl⟩, goesOn⟩ := urlAfter?_eq_some here
  rw [List.drop_left] at goesOn ⊢
  refine ⟨rest.dropWhile fun c => !endsUrl c, ?_, by simp [goesOn], fun c first => ?_⟩
  · rw [List.append_assoc, List.takeWhile_append_dropWhile]
  · have stopped := List.head?_dropWhile_not (fun c => !endsUrl c) rest
    rw [Option.mem_def.mp first] at stopped
    simpa using stopped

theorem urlAfter?_append_stop (stop : endsUrl c = true) (member : start ∈ urlStarts)
    (text back : List Char) : urlAfter? start (text ++ c :: back) = urlAfter? start text := by
  -- A URL's start has path characters alone, and what ends a URL is none of them.
  have absent : c ∉ start :=
    not_mem_of_paths (isPathChar_eq_false_of_endsUrl stop) (isPathChar_of_mem_urlStarts member)
  simp only [urlAfter?, isPrefixOf_append_stop absent]
  split
  · rename_i begins
    have within := (List.isPrefixOf_iff_prefix.mp begins).length_le
    rw [List.drop_append_of_le_length within, takeWhile_append_stop (by simp [stop])]
  · rfl

theorem urlHere?_append_stop (stop : endsUrl c = true) (text back : List Char) :
    urlHere? (text ++ c :: back) = urlHere? text := by
  have each : ∀ start ∈ urlStarts,
      urlAfter? start (text ++ c :: back) = urlAfter? start text :=
    fun start member => urlAfter?_append_stop stop member text back
  simp only [urlHere?, urlStarts, List.findSome?_cons, List.findSome?_nil]
  rw [each _ (by decide), each _ (by decide), each _ (by decide)]

/-! ### Paths -/

theorem endsWord_append_stop (stop : isWord c = false) (text back : List Char) :
    endsWord (text ++ c :: back) = endsWord text := by
  cases text with
  | nil => simp [endsWord, stop]
  | cons d rest => rfl

/-- What the path of a page ends in. -/
def pageExtensions : List (List Char) :=
  [".html".toList, ".htm".toList]

theorem isPathChar_of_mem_pageExtensions {extension : List Char}
    (member : extension ∈ pageExtensions) : ∀ d ∈ extension, isPathChar d := by
  have all : ∀ extension ∈ pageExtensions, extension.all isPathChar = true := by decide
  exact List.all_eq_true.mp (all extension member)

theorem extensionHere?_eq_some_iff :
    extensionHere? text = some length ↔ ∃ extension ∈ pageExtensions, ∃ rest,
      text = extension ++ rest ∧ endsWord rest = true ∧ length = extension.length := by
  constructor
  · intro found
    unfold extensionHere? at found
    split at found
    · rename_i rest
      split at found
      · rename_i whole
        exact ⟨".html".toList, by decide, rest, rfl, whole, (Option.some.inj found).symm⟩
      · cases found
    · rename_i rest _
      split at found
      · rename_i whole
        exact ⟨".htm".toList, by decide, rest, rfl, whole, (Option.some.inj found).symm⟩
      · cases found
    · cases found
  · rintro ⟨extension, member, rest, rfl, whole, rfl⟩
    rcases List.mem_pair.mp member with rfl | rfl
    · simp [extensionHere?, whole]
    · change extensionHere? ('.' :: 'h' :: 't' :: 'm' :: rest) = some 4
      unfold extensionHere?
      split
      · rename_i same
        -- The letter that makes one extension of the other goes on with the word.
        have word : isWord 'l' = true := by decide
        cases same
        simp [endsWord, word] at whole
      · rename_i same
        cases same
        rw [if_pos whole]
      · rename_i shorter
        exact absurd rfl (shorter rest)

theorem extensionHere?_append_stop (stop : isPathChar c = false) (text back : List Char) :
    extensionHere? (text ++ c :: back) = extensionHere? text := by
  have word : isWord c = false := by
    by_contra word
    rw [isPathChar_of_isWord (Bool.not_eq_false _ ▸ word)] at stop
    cases stop
  ext length
  simp only [extensionHere?_eq_some_iff]
  constructor
  · rintro ⟨extension, member, rest, same, whole, rfl⟩
    have absent : c ∉ extension := not_mem_of_paths stop (isPathChar_of_mem_pageExtensions member)
    obtain ⟨others, rfl⟩ := (prefix_append_stop absent).mp ⟨rest, same.symm⟩
    rw [List.append_assoc] at same
    cases List.append_cancel_left same
    exact ⟨extension, member, others, rfl, endsWord_append_stop word others back ▸ whole, rfl⟩
  · rintro ⟨extension, member, rest, rfl, whole, rfl⟩
    refine ⟨extension, member, rest ++ c :: back, List.append_assoc .., ?_, rfl⟩
    rw [endsWord_append_stop word, whole]

theorem extensionReach?_append_stop (stop : isPathChar c = false) (text back : List Char) :
    extensionReach? (text ++ c :: back) = extensionReach? text := by
  induction text with
  | nil => simp [extensionReach?, stop]
  | cons d rest ih =>
      have here := extensionHere?_append_stop stop (d :: rest) back
      rw [List.cons_append] at here
      simp only [List.cons_append, extensionReach?, ih, here]

/-- An extension that is reached lies in the text, and only path characters stand before its end. -/
theorem extensionReach?_path (found : extensionReach? text = some length) :
    length ≤ text.length ∧ ∀ d ∈ text.take length, isPathChar d := by
  induction text generalizing length with
  | nil => cases found
  | cons d rest ih =>
      simp only [extensionReach?] at found
      split at found
      · rename_i path
        split at found
        · rename_i within behind
          cases found
          obtain ⟨bound, others⟩ := ih behind
          exact ⟨Nat.succ_le_succ bound, by simpa [path] using others⟩
        · obtain ⟨extension, member, after, same, _, rfl⟩ := extensionHere?_eq_some_iff.mp found
          rw [same, List.length_append, List.take_left]
          exact ⟨Nat.le_add_right .., isPathChar_of_mem_pageExtensions member⟩
      · cases found

theorem pathHere?_append_stop (stop : isPathChar c = false) (text back : List Char) :
    pathHere? (text ++ c :: back) = pathHere? text := by
  cases text with
  | nil => simp [pathHere?, stop]
  | cons d rest =>
      simp only [List.cons_append, pathHere?, extensionReach?_append_stop stop]
      cases reach : extensionReach? rest with
      | none => rfl
      | some length =>
          simp only [Option.map_some,
            List.take_append_of_le_length (extensionReach?_path reach).1]

theorem pathHere?_split (found : pathHere? text = some chars) :
    ∃ after, text = chars ++ after ∧ chars ≠ [] ∧ ∀ d ∈ chars, isPathChar d := by
  cases text with
  | nil => cases found
  | cons d rest =>
      simp only [pathHere?] at found
      split at found
      · rename_i path
        obtain ⟨length, reach, rfl⟩ := Option.map_eq_some_iff.mp found
        refine ⟨rest.drop length, ?_, List.cons_ne_nil _ _, ?_⟩
        · rw [List.cons_append, List.take_append_drop]
        · simpa [path] using (extensionReach?_path reach).2
      · cases found

/-! ### Links of either kind -/

theorem bareHere?_eq_some_iff :
    bareHere? text = some chars ↔
      urlHere? text = some chars ∨ urlHere? text = none ∧ pathHere? text = some chars := by
  cases url : urlHere? text <;> simp [bareHere?, url]

theorem bareHere?_split (found : bareHere? text = some chars) :
    ∃ after, text = chars ++ after ∧ chars ≠ [] := by
  rcases bareHere?_eq_some_iff.mp found with url | ⟨_, path⟩
  · obtain ⟨after, same, nonempty, _⟩ := urlHere?_split url
    exact ⟨after, same, nonempty⟩
  · obtain ⟨after, same, nonempty, _⟩ := pathHere?_split path
    exact ⟨after, same, nonempty⟩

theorem bareHere?_append_stop (stop : endsUrl c = true) (text back : List Char) :
    bareHere? (text ++ c :: back) = bareHere? text := by
  simp only [bareHere?, urlHere?_append_stop stop,
    pathHere?_append_stop (isPathChar_eq_false_of_endsUrl stop)]

theorem bareHere?_of_stop (stop : endsUrl c = true) (back : List Char) :
    bareHere? (c :: back) = none :=
  bareHere?_append_stop stop [] back

/-! ### The scan of a line, place by place -/

theorem foundFrom_drop (skip : Nat) (text : List Char) :
    foundFrom skip text = foundFrom 0 (text.drop skip) := by
  induction text generalizing skip with
  | nil => cases skip <;> rfl
  | cons c rest ih =>
      cases skip with
      | zero => rfl
      | succ skip => exact ih skip

theorem foundFrom_of_none (none : bareHere? (c :: rest) = none) :
    foundFrom 0 (c :: rest) = foundFrom 0 rest := by
  simp only [foundFrom, none]

theorem foundFrom_of_some {after : List Char} (some : bareHere? (chars ++ after) = some chars) :
    foundFrom 0 (chars ++ after) = ⟨chars, after⟩ :: foundFrom 0 after := by
  obtain ⟨_, _, nonempty⟩ := bareHere?_split some
  cases chars with
  | nil => exact absurd rfl nonempty
  | cons c others =>
      rw [List.cons_append] at some ⊢
      simp only [foundFrom, some]
      rw [foundFrom_drop, ← List.cons_append, List.drop_left, List.length_cons,
        Nat.add_sub_cancel, List.drop_left]

/-- What holds of the empty text, and of a text where it holds of what the scan goes on with, holds
of every text. -/
theorem scan_induction {motive : List Char → Prop} (nil : motive [])
    (pass : ∀ c rest, bareHere? (c :: rest) = none → motive rest → motive (c :: rest))
    (take : ∀ chars after, chars ≠ [] → bareHere? (chars ++ after) = some chars → motive after →
      motive (chars ++ after)) (text : List Char) : motive text := by
  induction bound : text.length using Nat.strongRecOn generalizing text with
  | ind length ih =>
      subst bound
      cases text with
      | nil => exact nil
      | cons c rest =>
          cases here : bareHere? (c :: rest) with
          | none => exact pass c rest here (ih rest.length (Nat.lt_succ_self _) rest rfl)
          | some chars =>
              obtain ⟨after, same, nonempty⟩ := bareHere?_split here
              rw [same] at here ⊢
              refine take chars after nonempty here (ih after.length ?_ after rfl)
              rw [same, List.length_append]
              exact Nat.lt_add_of_pos_left (List.length_pos_iff.mpr nonempty)

end LiveSelector.Link
