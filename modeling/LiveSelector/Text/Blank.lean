namespace LiveSelector.Text

/-!
Blank characters and trimming.  A blank is a character with the Unicode property `White_Space`;
the control characters U+001C to U+001F and the zero-width characters are not blank.
-/

/-- The Unicode property `White_Space`. -/
def isBlank (c : Char) : Bool :=
  let n := c.toNat
  (9 ≤ n && n ≤ 13) || n == 0x20 || n == 0x85 || n == 0xA0 || n == 0x1680 ||
    (0x2000 ≤ n && n ≤ 0x200A) || n == 0x2028 || n == 0x2029 || n == 0x202F || n == 0x205F ||
    n == 0x3000

/-- Characters without the blanks at their start. -/
def trimStart (text : List Char) : List Char :=
  text.dropWhile isBlank

/-- Characters without the blanks at their end. -/
def trimEnd : List Char → List Char
  | [] => []
  | c :: rest =>
    match trimEnd rest with
    | [] => if isBlank c then [] else [c]
    | kept => c :: kept

/-- Characters without the blanks at either end. -/
def trimChars (text : List Char) : List Char :=
  trimEnd (trimStart text)

/-- A text without the blanks at either end. -/
def trim (text : String) : String :=
  .ofList (trimChars text.toList)

theorem trimStart_eq_self {c : Char} {rest : List Char} (solid : isBlank c = false) :
    trimStart (c :: rest) = c :: rest := by
  simp [trimStart, solid]

theorem trimEnd_cons_of_solid (rest : List Char) {c : Char} (solid : isBlank c = false) :
    trimEnd (c :: rest) = c :: trimEnd rest := by
  cases kept : trimEnd rest <;> simp [trimEnd, kept, solid]

/-- Only blanks are cut off the end. -/
theorem trimEnd_append_blanks (text : List Char) :
    ∃ blanks, text = trimEnd text ++ blanks ∧ ∀ c ∈ blanks, isBlank c = true := by
  induction text with
  | nil => exact ⟨[], rfl, by simp⟩
  | cons c rest ih =>
      obtain ⟨blanks, cut, allBlank⟩ := ih
      cases kept : trimEnd rest with
      | nil =>
          rw [kept, List.nil_append] at cut
          cases blank : isBlank c with
          | true =>
              have empty : trimEnd (c :: rest) = [] := by simp [trimEnd, kept, blank]
              exact ⟨c :: blanks, by rw [empty, List.nil_append, cut],
                by simpa [blank] using allBlank⟩
          | false =>
              have single : trimEnd (c :: rest) = [c] := by simp [trimEnd, kept, blank]
              exact ⟨blanks, by rw [single, cut]; rfl, allBlank⟩
      | cons first others =>
          have longer : trimEnd (c :: rest) = c :: trimEnd rest := by simp [trimEnd, kept]
          exact ⟨blanks, by rw [longer, List.cons_append, ← cut], allBlank⟩

end LiveSelector.Text
