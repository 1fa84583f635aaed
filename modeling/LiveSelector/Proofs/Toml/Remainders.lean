import LiveSelector.Toml.Reader
import Mathlib.Data.List.Infix

namespace LiveSelector.Toml

/-! What a reader hands on is an end of the text that it was given: nothing is read twice, put back
or made up.  So whatever a reader takes stands in the document, in one piece and ahead of what is
taken later. -/

variable {text rest : List Char} {value : Toml}

/-! Numbers and moments -/

section

variable {isDigit : Char → Bool} {digits : List Char}

theorem moreDigits?_suffix (read : moreDigits? isDigit text = some (digits, rest)) :
    rest <:+ text := by
  fun_induction moreDigits? isDigit text generalizing digits with
  | case1 =>
      cases read
      exact List.suffix_refl _
  | case2 => cases read
  | case3 c rest' _ ih =>
      obtain ⟨⟨inner, after⟩, later, same⟩ := Option.map_eq_some_iff.mp read
      cases same
      exact ((ih later).trans (List.suffix_cons c _)).trans (List.suffix_cons '_' _)
  | case4 => cases read
  | case5 c rest' _ _ _ ih =>
      obtain ⟨⟨inner, after⟩, later, same⟩ := Option.map_eq_some_iff.mp read
      cases same
      exact (ih later).trans (List.suffix_cons c _)
  | case6 =>
      cases read
      exact List.suffix_refl _

theorem readDigits?_suffix (read : readDigits? isDigit text = some (digits, rest)) :
    rest <:+ text := by
  unfold readDigits? at read
  split at read
  · rename_i c others
    split at read
    · obtain ⟨⟨inner, after⟩, later, same⟩ := Option.map_eq_some_iff.mp read
      cases same
      exact (moreDigits?_suffix later).trans (List.suffix_cons c _)
    · cases read
  · cases read

theorem readWhole?_suffix (read : readWhole? text = some (digits, rest)) : rest <:+ text := by
  unfold readWhole? at read
  split at read
  · cases read
    exact List.suffix_cons _ _
  · exact readDigits?_suffix read

theorem readSign_suffix (text : List Char) : (readSign text).2 <:+ text := by
  unfold readSign
  split
  · exact List.suffix_cons _ _
  · exact List.suffix_cons _ _
  · exact List.suffix_refl _

theorem readBased?_suffix {base : Nat} (read : readBased? base isDigit text = some (value, rest)) :
    rest <:+ text := by
  unfold readBased? at read
  split at read
  · rename_i some_digits
    split at read
    · cases read
      exact readDigits?_suffix some_digits
    · cases read
  · cases read

end

theorem readDecimal?_suffix (read : readDecimal? text = some (value, rest)) : rest <:+ text := by
  unfold readDecimal? at read
  simp only at read
  split at read
  · rename_i digits after whole
    have taken : rest = after := by
      split at read
      · split at read
        · cases read
          rfl
        · cases read
      · split at read
        · cases read
          rfl
        · cases read
    subst taken
    exact (readWhole?_suffix whole).trans (readSign_suffix text)
  · cases read

theorem readInteger?_suffix (read : readInteger? text = some (value, rest)) : rest <:+ text := by
  unfold readInteger? at read
  split at read
  case h_4 => exact readDecimal?_suffix read
  all_goals
    exact ((readBased?_suffix read).trans (List.suffix_cons _ _)).trans (List.suffix_cons _ _)

theorem readFraction?_suffix {places : Option (List Char)}
    (read : readFraction? text = some (places, rest)) : rest <:+ text := by
  unfold readFraction? at read
  split at read
  · obtain ⟨⟨digits, after⟩, later, same⟩ := Option.map_eq_some_iff.mp read
    cases same
    exact (readDigits?_suffix later).trans (List.suffix_cons _ _)
  · cases read
    exact List.suffix_refl _

theorem readExponent?_suffix {exponent : Option Int}
    (read : readExponent? text = some (exponent, rest)) : rest <:+ text := by
  unfold readExponent? at read
  split at read
  · rename_i mark others
    split at read
    · obtain ⟨⟨digits, after⟩, later, same⟩ := Option.map_eq_some_iff.mp read
      cases same
      have unsigned := readSign_suffix others
      exact ((readDigits?_suffix later).trans unsigned).trans (List.suffix_cons mark _)
    · cases read
      exact List.suffix_refl _
  · cases read
    exact List.suffix_refl _

theorem readDecimalFloat?_suffix (read : readDecimalFloat? text = some (value, rest)) :
    rest <:+ text := by
  simp only [readDecimalFloat?, Option.bind_eq_bind, Option.bind_eq_some_iff] at read
  obtain ⟨⟨whole, afterWhole⟩, first, ⟨places, afterPlaces⟩, second, ⟨exponent, after⟩, third,
    read⟩ := read
  have taken : after = rest := by
    split at read
    · cases read
    · split at read
      · cases read
      · cases read
        rfl
  subst taken
  calc after <:+ afterPlaces := readExponent?_suffix third
    _ <:+ afterWhole := readFraction?_suffix second
    _ <:+ (readSign text).2 := readWhole?_suffix first
    _ <:+ text := readSign_suffix text

theorem readNamedFloat?_suffix (read : readNamedFloat? text = some (value, rest)) :
    rest <:+ text := by
  unfold readNamedFloat? at read
  have named : rest <:+ (readSign text).2 := by
    split at read
    · rename_i shape
      cases read
      rw [shape]
      exact ⟨['i', 'n', 'f'], rfl⟩
    · rename_i shape
      cases read
      rw [shape]
      exact ⟨['n', 'a', 'n'], rfl⟩
    · cases read
  exact named.trans (readSign_suffix text)

theorem readFixed?_suffix {count number : Nat} (read : readFixed? count text = some (number, rest)) :
    rest <:+ text := by
  unfold readFixed? at read
  simp only at read
  split at read
  · cases read
    exact List.drop_suffix count text
  · cases read

theorem readMark?_suffix {mark : Char} (read : readMark? mark text = some rest) :
    rest <:+ text := by
  unfold readMark? at read
  split at read
  · split at read
    · cases read
      exact List.suffix_cons _ _
    · cases read
  · cases read

theorem readDate?_suffix (read : readDate? text = some rest) : rest <:+ text := by
  simp only [readDate?, Option.bind_eq_bind, Option.bind_eq_some_iff] at read
  obtain ⟨⟨year, afterYear⟩, first, mark, second, ⟨month, afterMonth⟩, third, mark', fourth,
    ⟨day, after⟩, fifth, read⟩ := read
  have taken : after = rest := by
    split at read
    · cases read
      rfl
    · cases read
  subst taken
  calc after <:+ mark' := readFixed?_suffix fifth
    _ <:+ afterMonth := readMark?_suffix fourth
    _ <:+ mark := readFixed?_suffix third
    _ <:+ afterYear := readMark?_suffix second
    _ <:+ text := readFixed?_suffix first

theorem readHourMinute?_suffix (read : readHourMinute? text = some rest) : rest <:+ text := by
  simp only [readHourMinute?, Option.bind_eq_bind, Option.bind_eq_some_iff] at read
  obtain ⟨⟨hour, afterHour⟩, first, mark, second, ⟨minute, after⟩, third, read⟩ := read
  have taken : after = rest := by
    split at read
    · cases read
      rfl
    · cases read
  subst taken
  calc after <:+ mark := readFixed?_suffix third
    _ <:+ afterHour := readMark?_suffix second
    _ <:+ text := readFixed?_suffix first

theorem readTime?_suffix (read : readTime? text = some rest) : rest <:+ text := by
  simp only [readTime?, Option.bind_eq_bind, Option.bind_eq_some_iff] at read
  obtain ⟨afterMinute, first, mark, second, ⟨seconds, after⟩, third, read⟩ := read
  have tail : rest <:+ after := by
    split at read
    · cases read
    · split at read
      · rename_i c others point
        split at read
        · cases read
          exact (List.dropWhile_suffix _).trans ⟨['.', c], point.symm⟩
        · cases read
          exact List.suffix_refl _
      · cases read
        exact List.suffix_refl _
  calc rest <:+ after := tail
    _ <:+ mark := readFixed?_suffix third
    _ <:+ afterMinute := readMark?_suffix second
    _ <:+ text := readHourMinute?_suffix first

theorem dropOffset_suffix (text : List Char) : dropOffset text <:+ text := by
  unfold dropOffset
  split
  · exact List.suffix_cons _ _
  · exact List.suffix_cons _ _
  · rename_i others
    cases offset : readHourMinute? others with
    | none => exact List.suffix_refl _
    | some after => exact (readHourMinute?_suffix offset).trans (List.suffix_cons _ _)
  · rename_i others
    cases offset : readHourMinute? others with
    | none => exact List.suffix_refl _
    | some after => exact (readHourMinute?_suffix offset).trans (List.suffix_cons _ _)
  · exact List.suffix_refl _

theorem dropTimeOfDay_suffix (text : List Char) : dropTimeOfDay text <:+ text := by
  unfold dropTimeOfDay
  split
  · rename_i mark others
    split
    · split
      · rename_i after time
        calc dropOffset after <:+ after := dropOffset_suffix after
          _ <:+ others := readTime?_suffix time
          _ <:+ mark :: others := List.suffix_cons mark others
      · exact List.suffix_refl _
    · exact List.suffix_refl _
  · exact List.suffix_refl _

theorem readMoment?_suffix (read : readMoment? text = some (value, rest)) : rest <:+ text := by
  unfold readMoment? at read
  split at read
  · rename_i after date
    cases read
    exact (dropTimeOfDay_suffix after).trans (readDate?_suffix date)
  · obtain ⟨after, time, same⟩ := Option.map_eq_some_iff.mp read
    cases same
    exact readTime?_suffix time

theorem readNumeral?_suffix (read : readNumeral? text = some (value, rest)) : rest <:+ text := by
  simp only [readNumeral?, HOrElse.hOrElse, OrElse.orElse, Option.orElse_eq_or,
    Option.or_eq_some_iff] at read
  rcases read with moment | ⟨_, float | ⟨_, named | ⟨_, integer⟩⟩⟩
  · exact readMoment?_suffix moment
  · exact readDecimalFloat?_suffix float
  · exact readNamedFloat?_suffix named
  · exact readInteger?_suffix integer

/-! Quoted texts and keys -/

theorem readQuoted?_suffix {style : Style} {state : QuoteState} {quoted : List Char}
    (read : readQuoted? style state text = some (quoted, rest)) : rest <:+ text := by
  induction text generalizing state quoted with
  | nil =>
      unfold readQuoted? at read
      split at read
      · split at read
        · cases read
          exact List.suffix_refl _
        · cases read
      · cases read
      · rename_i impossible
        cases impossible
  | cons c others ih =>
      unfold readQuoted? at read
      simp only at read
      split at read
      · cases read
        exact List.suffix_refl _
      · split at read
        · cases read
        · split at read
          · rename_i later
            cases read
            exact (ih later).trans (List.suffix_cons c others)
          · cases read

theorem readSpanning?_suffix {quote : Char} {escapes : Bool} {quoted : List Char}
    (read : readSpanning? quote escapes text = some (quoted, rest)) : rest <:+ text := by
  unfold readSpanning? at read
  split at read
  · exact (readQuoted?_suffix read).trans (List.suffix_cons _ _)
  · exact readQuoted?_suffix read

theorem readText?_suffix {quoted : List Char} (read : readText? text = some (quoted, rest)) :
    rest <:+ text := by
  unfold readText? at read
  split at read
  · exact (readSpanning?_suffix read).trans ⟨['"', '"', '"'], rfl⟩
  · exact (readQuoted?_suffix read).trans (List.suffix_cons _ _)
  · exact (readSpanning?_suffix read).trans ⟨['\'', '\'', '\''], rfl⟩
  · exact (readQuoted?_suffix read).trans (List.suffix_cons _ _)
  · cases read

theorem skipBlanks_suffix (text : List Char) : skipBlanks text <:+ text :=
  List.dropWhile_suffix _

theorem readKeyPart?_suffix {part : List Char} (read : readKeyPart? text = some (part, rest)) :
    rest <:+ text := by
  unfold readKeyPart? at read
  split at read
  · exact (readQuoted?_suffix read).trans (List.suffix_cons _ _)
  · exact (readQuoted?_suffix read).trans (List.suffix_cons _ _)
  · split at read
    · cases read
    · cases read
      exact List.dropWhile_suffix _

theorem readKeyWithin?_suffix {count : Nat} {parts : List (List Char)}
    (read : readKeyWithin? count text = some (parts, rest)) : rest <:+ text := by
  induction count generalizing text parts with
  | zero => cases read
  | succ count ih =>
      unfold readKeyWithin? at read
      split at read
      · cases read
      · rename_i part after first
        have behind : skipBlanks after <:+ text :=
          calc skipBlanks after <:+ after := skipBlanks_suffix after
            _ <:+ skipBlanks text := readKeyPart?_suffix first
            _ <:+ text := skipBlanks_suffix text
        split at read
        · rename_i others dot
          split at read
          · rename_i later
            cases read
            rw [dot] at behind
            exact (ih later).trans ((List.suffix_cons '.' others).trans behind)
          · cases read
        · cases read
          exact behind

theorem readKey?_suffix {path : List (List Char)} (read : readKey? text = some (path, rest)) :
    rest <:+ text :=
  readKeyWithin?_suffix read

/-! Values -/

theorem dropComment?_suffix (read : dropComment? text = some rest) : rest <:+ text := by
  induction text with
  | nil =>
      cases read
      exact List.suffix_refl _
  | cons c others ih =>
      simp only [dropComment?] at read
      split at read
      · cases read
        exact List.suffix_refl _
      · split at read
        · exact (ih read).trans (List.suffix_cons c others)
        · cases read

theorem skipSpaceWithin?_suffix {count : Nat} (read : skipSpaceWithin? count text = some rest) :
    rest <:+ text := by
  induction count generalizing text with
  | zero =>
      cases read
      exact List.suffix_refl _
  | succ count ih =>
      unfold skipSpaceWithin? at read
      have ahead := List.dropWhile_suffix (l := text) fun c => isBlank c || c == '\n'
      split at read
      · rename_i comment opened
        split at read
        · rename_i after dropped
          rw [opened] at ahead
          calc rest <:+ after := ih read
            _ <:+ comment := dropComment?_suffix dropped
            _ <:+ '#' :: comment := List.suffix_cons '#' comment
            _ <:+ text := ahead
        · cases read
      · cases read
        exact ahead

theorem skipSpace?_suffix (read : skipSpace? text = some rest) : rest <:+ text :=
  skipSpaceWithin?_suffix read

/-- What the readers of values, items and entries leave with some fuel. -/
structure LeavesEnds (fuel : Nat) : Prop where
  value : ∀ {depth text value rest}, readValue? fuel depth text = some (value, rest) → rest <:+ text
  items : ∀ {depth text items rest}, readItems? fuel depth text = some (items, rest) → rest <:+ text
  entries : ∀ {depth text entries rest}, readEntries? fuel depth text = some (entries, rest) →
    rest <:+ text

namespace LeavesEnds

variable {fuel depth : Nat} (leaves : LeavesEnds fuel)

include leaves

theorem next_value (read : readValue? (fuel + 1) depth text = some (value, rest)) :
    rest <:+ text := by
  unfold readValue? at read
  split at read
  · obtain ⟨⟨quoted, after⟩, inner, same⟩ := Option.map_eq_some_iff.mp read
    cases same
    exact readText?_suffix inner
  · obtain ⟨⟨quoted, after⟩, inner, same⟩ := Option.map_eq_some_iff.mp read
    cases same
    exact readText?_suffix inner
  · split at read
    · cases read
    · obtain ⟨⟨items, after⟩, inner, same⟩ := Option.map_eq_some_iff.mp read
      cases same
      exact (leaves.items inner).trans (List.suffix_cons _ _)
  · rename_i others
    split at read
    · cases read
    · have inside : skipBlanks others <:+ '{' :: others :=
        (skipBlanks_suffix others).trans (List.suffix_cons '{' others)
      split at read
      · rename_i closed
        cases read
        rw [closed] at inside
        exact (List.suffix_cons '}' _).trans inside
      · split at read
        · rename_i entries after inner
          obtain ⟨table, built, same⟩ := Option.map_eq_some_iff.mp read
          cases same
          exact (leaves.entries inner).trans inside
        · cases read
  · cases read
    exact ⟨['t', 'r', 'u', 'e'], rfl⟩
  · cases read
    exact ⟨['f', 'a', 'l', 's', 'e'], rfl⟩
  · exact readNumeral?_suffix read

theorem next_items {items : List Toml}
    (read : readItems? (fuel + 1) depth text = some (items, rest)) : rest <:+ text := by
  unfold readItems? at read
  split at read
  · cases read
  · rename_i skipped
    cases read
    exact (List.suffix_cons ']' _).trans (skipSpace?_suffix skipped)
  · rename_i inner _ skipped
    have inside : inner <:+ text := skipSpace?_suffix skipped
    split at read
    · cases read
    · rename_i item afterItem first
      have behind : afterItem <:+ text := (leaves.value first).trans inside
      split at read
      · rename_i others comma
        split at read
        · rename_i more
          cases read
          calc rest <:+ others := leaves.items more
            _ <:+ ',' :: others := List.suffix_cons ',' others
            _ <:+ afterItem := skipSpace?_suffix comma
            _ <:+ text := behind
        · cases read
      · rename_i closed
        cases read
        exact ((List.suffix_cons ']' _).trans (skipSpace?_suffix closed)).trans behind
      · cases read

theorem next_entries {entries : List (List (List Char) × Toml)}
    (read : readEntries? (fuel + 1) depth text = some (entries, rest)) : rest <:+ text := by
  unfold readEntries? at read
  split at read
  · rename_i key others named
    split at read
    · cases read
    · rename_i value afterValue first
      have behind : skipBlanks afterValue <:+ text :=
        calc skipBlanks afterValue <:+ afterValue := skipBlanks_suffix afterValue
          _ <:+ skipBlanks others := leaves.value first
          _ <:+ others := skipBlanks_suffix others
          _ <:+ '=' :: others := List.suffix_cons '=' others
          _ <:+ text := readKey?_suffix named
      split at read
      · rename_i tail comma
        split at read
        · rename_i more
          cases read
          rw [comma] at behind
          exact (leaves.entries more).trans ((List.suffix_cons ',' tail).trans behind)
        · cases read
      · rename_i closed
        cases read
        rw [closed] at behind
        exact (List.suffix_cons '}' _).trans behind
      · cases read
  · cases read

end LeavesEnds

theorem leavesEnds (fuel : Nat) : LeavesEnds fuel := by
  induction fuel with
  | zero => constructor <;> simp [readValue?, readItems?, readEntries?]
  | succ fuel leaves => exact ⟨leaves.next_value, leaves.next_items, leaves.next_entries⟩

theorem readValue?_suffix {fuel depth : Nat}
    (read : readValue? fuel depth text = some (value, rest)) : rest <:+ text :=
  (leavesEnds fuel).value read

/-! Statements -/

/-- A statement takes at least one character. -/
theorem readStatement?_takes {statement : Statement}
    (read : readStatement? text = some (statement, rest)) :
    ∃ c others, c :: others <:+ text ∧ rest <:+ others := by
  unfold readStatement? at read
  split at read
  · rename_i others
    split at read
    · rename_i named
      cases read
      refine ⟨'[', '[' :: others, List.suffix_refl _, ?_⟩
      calc rest <:+ ']' :: ']' :: rest := ⟨[']', ']'], rfl⟩
        _ <:+ others := readKey?_suffix named
        _ <:+ '[' :: others := List.suffix_cons _ _
    · cases read
  · rename_i others _
    split at read
    · rename_i named
      cases read
      refine ⟨'[', others, List.suffix_refl _, ?_⟩
      exact (List.suffix_cons ']' rest).trans (readKey?_suffix named)
    · cases read
  · split at read
    · rename_i path others named
      obtain ⟨⟨value, after⟩, inner, same⟩ := Option.map_eq_some_iff.mp read
      cases same
      exact ⟨'=', others, readKey?_suffix named,
        (readValue?_suffix inner).trans (skipBlanks_suffix others)⟩
    · cases read

theorem readStatement?_suffix {statement : Statement}
    (read : readStatement? text = some (statement, rest)) : rest <:+ text := by
  obtain ⟨c, others, among, behind⟩ := readStatement?_takes read
  exact (behind.trans (List.suffix_cons c others)).trans among

end LiveSelector.Toml
