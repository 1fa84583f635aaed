import LiveSelector.Text.Blank
import Mathlib.Data.List.Induction
import Mathlib.Data.List.TakeWhile

namespace LiveSelector.Text

/-! What trimming leaves of a text: the part between blanks that neither begins nor ends with a
blank, of which there is only one. -/

variable {c : Char} {text rest core : List Char}

theorem trimEnd_append_blank (blank : isBlank c = true) (text : List Char) :
    trimEnd (text ++ [c]) = trimEnd text := by
  induction text with
  | nil => simp [trimEnd, blank]
  | cons first rest ih => simp only [List.cons_append, trimEnd, ih]

theorem trimEnd_append_of_blank {blanks : List Char} (blank : ∀ c ∈ blanks, isBlank c = true)
    (text : List Char) : trimEnd (text ++ blanks) = trimEnd text := by
  induction blanks using List.reverseRecOn with
  | nil => rw [List.append_nil]
  | append_singleton front last ih =>
      rw [← List.append_assoc, trimEnd_append_blank (blank last (by simp))]
      exact ih fun c member => blank c (List.mem_append_left _ member)

theorem trimEnd_trimEnd (text : List Char) : trimEnd (trimEnd text) = trimEnd text := by
  induction text with
  | nil => rfl
  | cons c rest ih =>
      cases kept : trimEnd rest with
      | nil => cases blank : isBlank c <;> simp [trimEnd, kept, blank]
      | cons first others =>
          have longer : trimEnd (c :: rest) = c :: first :: others := by simp [trimEnd, kept]
          rw [kept] at ih
          rw [longer]
          simp only [trimEnd] at ih ⊢
          rw [ih]

theorem solid_of_trimStart (cut : trimStart text = c :: rest) : isBlank c = false := by
  have kept := List.head?_dropWhile_not isBlank text
  rw [← trimStart, cut] at kept
  simpa using kept

theorem trimEnd_concat (solid : isBlank c = false) (text : List Char) :
    trimEnd (text ++ [c]) = text ++ [c] := by
  induction text with
  | nil => simp [trimEnd, solid]
  | cons first rest ih =>
      rw [List.cons_append, trimEnd, ih]
      cases rest <;> rfl

theorem solid_of_trimEnd (kept : trimEnd text = rest ++ [c]) : isBlank c = false := by
  have again : trimEnd (rest ++ [c]) = rest ++ [c] := kept ▸ trimEnd_trimEnd text
  by_contra blank
  rw [trimEnd_append_blank (by simpa using blank)] at again
  obtain ⟨blanks, cut, _⟩ := trimEnd_append_blanks rest
  have shorter := congrArg List.length again
  have longer := congrArg List.length cut
  simp only [List.length_append, List.length_singleton] at shorter longer
  omega

/-- A text is blanks around a core that neither begins nor ends with a blank. -/
structure Trims (text core : List Char) : Prop where
  around : ∃ before after, text = before ++ (core ++ after) ∧
    (∀ c ∈ before, isBlank c = true) ∧ ∀ c ∈ after, isBlank c = true
  first : ∀ c ∈ core.head?, isBlank c = false
  last : ∀ c ∈ core.getLast?, isBlank c = false

theorem trimEnd_eq_self (last : ∀ c ∈ core.getLast?, isBlank c = false) : trimEnd core = core := by
  cases core using List.reverseRecOn with
  | nil => rfl
  | append_singleton front c _ => exact trimEnd_concat (last c (by simp)) front

theorem Trims.trimChars (trims : Trims text core) : trimChars text = core := by
  obtain ⟨⟨before, after, rfl, front, back⟩, first, last⟩ := trims
  have start : trimStart (before ++ (core ++ after)) = trimStart (core ++ after) :=
    List.dropWhile_append_of_pos front
  rw [Text.trimChars, start]
  cases core with
  | nil =>
      have nothing : trimStart after = [] := List.dropWhile_eq_nil_iff.mpr back
      rw [List.nil_append, nothing, trimEnd]
  | cons c others =>
      have solid : trimStart (c :: others ++ after) = c :: others ++ after :=
        trimStart_eq_self (first c (by simp))
      rw [solid, trimEnd_append_of_blank back, trimEnd_eq_self last]

theorem trims_trimChars (text : List Char) : Trims text (trimChars text) := by
  obtain ⟨after, cut, back⟩ := trimEnd_append_blanks (trimStart text)
  refine ⟨⟨text.takeWhile isBlank, after, ?_, ?_, back⟩, ?_, ?_⟩
  · rw [trimChars, ← cut]
    exact List.takeWhile_append_dropWhile.symm
  · exact fun c member => List.mem_takeWhile_imp member
  · intro c first
    obtain ⟨rest, kept⟩ := List.head?_eq_some_iff.mp first
    have start : trimStart text = c :: (rest ++ after) := by
      rw [cut, ← trimChars, kept]
      rfl
    exact solid_of_trimStart start
  · intro c last
    obtain ⟨front, kept⟩ := List.getLast?_eq_some_iff.mp last
    exact solid_of_trimEnd kept

/-- A text has one core, the one that trimming leaves. -/
theorem trims_iff : Trims text core ↔ trimChars text = core :=
  ⟨Trims.trimChars, fun trimmed => trimmed ▸ trims_trimChars text⟩

theorem trim_trim (text : String) : trim (trim text) = trim text := by
  obtain ⟨_, first, last⟩ := trims_trimChars text.toList
  have again : Trims (trimChars text.toList) (trimChars text.toList) :=
    ⟨⟨[], [], by simp⟩, first, last⟩
  rw [trim, trim, String.toList_ofList, again.trimChars]

end LiveSelector.Text
