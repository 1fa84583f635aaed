import LiveSelector.Url.Parse
import Mathlib.Data.List.TakeWhile

namespace LiveSelector.Url

/-! The scheme of a URL.  What stands before the first colon of a text is the scheme of the URL that
the text spells, whatever follows; what follows decides whether it spells one at all.  Only the
characters around a text and the gaps in it do not count. -/

variable {scheme : String} {start text rest : List Char} {url : Url}

/-- A text begins with a scheme and a colon; a scheme is known by its small letters. -/
def Begins (scheme : String) (text rest : List Char) : Prop :=
  ∃ letter name, text = letter :: name ++ ':' :: rest ∧ letter.isAlpha = true ∧
    (∀ c ∈ name, isSchemeChar c = true) ∧ scheme = .ofList ((letter :: name).map Char.toLower)

theorem isSchemeChar_of_isAlpha {c : Char} (letter : c.isAlpha = true) : isSchemeChar c = true := by
  simp [isSchemeChar, Char.isAlphanum, letter]

theorem takeWhile_scheme {letter : Char} {name : List Char} (alpha : letter.isAlpha = true)
    (all : ∀ c ∈ name, isSchemeChar c = true) (rest : List Char) :
    (letter :: name ++ ':' :: rest).takeWhile isSchemeChar = letter :: name ∧
      (letter :: name ++ ':' :: rest).dropWhile isSchemeChar = ':' :: rest := by
  have colon : isSchemeChar ':' = false := by decide
  have whole : ∀ c ∈ letter :: name, isSchemeChar c = true :=
    List.forall_mem_cons.mpr ⟨isSchemeChar_of_isAlpha alpha, all⟩
  rw [List.takeWhile_append_of_pos whole, List.dropWhile_append_of_pos whole]
  simp [colon]

theorem scheme?_eq_some_iff : scheme? text = some (scheme, rest) ↔ Begins scheme text rest := by
  constructor
  · intro read
    cases text with
    | nil => cases read
    | cons letter others =>
        simp only [scheme?] at read
        split at read
        · rename_i alpha
          split at read
          · rename_i behind stopped
            cases read
            have char := isSchemeChar_of_isAlpha alpha
            have front : (letter :: others).takeWhile isSchemeChar =
                letter :: others.takeWhile isSchemeChar := List.takeWhile_cons_of_pos char
            refine ⟨letter, others.takeWhile isSchemeChar, ?_, alpha,
              fun c member => List.mem_takeWhile_imp member, by rw [front]⟩
            rw [← front, ← stopped, List.takeWhile_append_dropWhile]
          · cases read
        · cases read
  · rintro ⟨letter, name, rfl, alpha, all, rfl⟩
    obtain ⟨front, back⟩ := takeWhile_scheme alpha all rest
    rw [List.cons_append] at front back ⊢
    simp only [scheme?, alpha, if_true, front, back]

theorem Begins.unique {other : String} {behind : List Char} (one : Begins scheme text rest)
    (two : Begins other text behind) : scheme = other ∧ rest = behind := by
  have same := (scheme?_eq_some_iff.mpr one).symm.trans (scheme?_eq_some_iff.mpr two)
  exact Prod.mk.inj (Option.some.inj same)

/-! ### What reading keeps of a text -/

/-- The characters of a text that its URL is read from. -/
def readable (text : String) : List Char :=
  withoutGaps (trimControls text.toList)

theorem dropControls_of_solid (solid : ∀ c ∈ text, ¬ c.toNat ≤ 0x20) :
    text.dropWhile (·.toNat ≤ 0x20) = text := by
  cases text with
  | nil => rfl
  | cons c others => simp [solid c (List.mem_cons_self ..)]

theorem trimControls_append (solid : ∀ c ∈ start, ¬ c.toNat ≤ 0x20) (nonempty : start ≠ [])
    (rest : List Char) : ∃ kept, trimControls (start ++ rest) = start ++ kept := by
  have front : (start ++ rest).dropWhile (·.toNat ≤ 0x20) = start ++ rest := by
    cases start with
    | nil => exact absurd rfl nonempty
    | cons c others => simp [solid c (List.mem_cons_self ..)]
  have back : start.reverse.dropWhile (·.toNat ≤ 0x20) = start.reverse :=
    dropControls_of_solid fun c member => solid c (List.mem_reverse.mp member)
  rw [trimControls, front, List.reverse_append, List.dropWhile_append, back]
  split
  · exact ⟨[], by rw [List.reverse_reverse, List.append_nil]⟩
  · exact ⟨_, by rw [List.reverse_append, List.reverse_reverse]⟩

theorem withoutGaps_of_solid (solid : ∀ c ∈ start, ¬ c.toNat ≤ 0x20) :
    withoutGaps start = start := by
  apply List.filter_eq_self.mpr
  intro c member
  have other : ∀ gap ∈ ['\t', '\n', '\r'], gap.toNat ≤ 0x20 := by simp
  have plain : c ∉ ['\t', '\n', '\r'] := fun gap => solid c member (other c gap)
  simpa [isGap] using plain

/-- What stands at the start of a text and is neither blank nor a control character is read as it
stands. -/
theorem readable_append {target : String} (solid : ∀ c ∈ start, ¬ c.toNat ≤ 0x20)
    (nonempty : start ≠ []) (begins : start <+: target.toList) :
    ∃ kept, readable target = start ++ kept := by
  obtain ⟨rest, whole⟩ := begins
  obtain ⟨kept, trimmed⟩ := trimControls_append solid nonempty rest
  refine ⟨withoutGaps kept, ?_⟩
  rw [readable, ← whole, trimmed, withoutGaps, List.filter_append, ← withoutGaps,
    withoutGaps_of_solid solid, withoutGaps]

theorem readable_of_solid {target : String} (solid : ∀ c ∈ target.toList, ¬ c.toNat ≤ 0x20) :
    readable target = target.toList := by
  have back : ∀ c ∈ target.toList.reverse, ¬ c.toNat ≤ 0x20 := fun c member =>
    solid c (List.mem_reverse.mp member)
  rw [readable, trimControls, dropControls_of_solid solid, dropControls_of_solid back,
    List.reverse_reverse, withoutGaps_of_solid solid]

/-! ### The URL of a text -/

theorem schemeKind_file_iff : schemeKind scheme = .file ↔ scheme = "file" := by
  simp only [schemeKind]
  split
  · simpa using ‹scheme = "file"›
  · split <;> simpa using ‹¬ scheme = "file"›

theorem special?_scheme (read : special? scheme text = some url) : url.scheme = scheme := by
  simp only [special?] at read
  obtain ⟨_, _, built⟩ := Option.bind_eq_some_iff.mp read
  cases built
  rfl

theorem file?_scheme (read : file? text = some url) : url.scheme = "file" := by
  have hosted : ∀ {after : List Char}, fileWithHost? after = some url → url.scheme = "file" := by
    intro after read
    simp only [fileWithHost?] at read
    split at read
    · cases read
      rfl
    · split at read
      · cases read
      · cases read
        rfl
      · cases read
        rfl
  simp only [file?] at read
  split at read
  · split at read
    · split at read
      · split at read
        · exact hosted read
        · cases read
          rfl
      · cases read
        rfl
    · cases read
      rfl
  · cases read
    rfl

theorem other?_scheme (read : other? scheme text = some url) : url.scheme = scheme := by
  simp only [other?] at read
  split at read
  · obtain ⟨_, _, built⟩ := Option.bind_eq_some_iff.mp read
    cases built
    rfl
  · cases read
    rfl
  · cases read
    rfl

theorem parse?_begins {target : String} (read : parse? target = some url) :
    ∃ rest, Begins url.scheme (readable target) rest := by
  simp only [parse?] at read
  split at read
  · cases read
  · rename_i scheme rest found
    refine ⟨rest, scheme?_eq_some_iff.mp ?_⟩
    rw [readable, found]
    have same : url.scheme = scheme := by
      split at read
      · rename_i file
        rw [file?_scheme read, schemeKind_file_iff.mp file]
      · exact special?_scheme read
      · exact other?_scheme read
    rw [same]

theorem parse?_of_special {target : String} (begins : Begins scheme (readable target) rest)
    (kind : schemeKind scheme = .special) : parse? target = special? scheme rest := by
  have found := scheme?_eq_some_iff.mpr begins
  rw [readable] at found
  simp only [parse?, found, kind]

/-- A scheme that is not special and no two slashes behind it make a URL of any text. -/
theorem parse?_of_plain {target : String} (begins : Begins scheme (readable target) rest)
    (kind : schemeKind scheme = .other) (plain : ¬ "//".toList <+: rest) :
    (parse? target).isSome = true := by
  have found := scheme?_eq_some_iff.mpr begins
  rw [readable] at found
  simp only [parse?, found, kind, other?]
  split
  · exact absurd ⟨_, rfl⟩ plain
  · rfl
  · rfl

end LiveSelector.Url
