import LiveSelector.Proofs.Toml.Layout

namespace LiveSelector.Toml

/-! How keys are written.  A bare key stands in the document as it is, and so does a quoted one but
for its escapes: where the text of a statement holds no backslash, it holds every key that the
statement names, those between the braces of its value included. -/

/-- A piece stands in what is taken from a text up to the rest, unless a backslash is in there. -/
def Spells (text rest piece : List Char) : Prop :=
  ∃ own, text = own ++ rest ∧ ('\\' ∉ own → piece <:+: own)

variable {text rest piece : List Char} {value : Toml}

theorem Spells.widen {wide narrow : List Char} (spells : Spells text rest piece)
    (ahead : text <:+ wide) (behind : narrow <:+ rest) : Spells wide narrow piece := by
  obtain ⟨own, whole, inside⟩ := spells
  obtain ⟨front, start⟩ := ahead
  obtain ⟨back, tail⟩ := behind
  refine ⟨front ++ (own ++ back), ?_, fun plain => ?_⟩
  · rw [← start, whole, ← tail]
    simp only [List.append_assoc]
  · simp only [List.mem_append, not_or] at plain
    exact (inside plain.2.1).trans ⟨front, back, by rw [List.append_assoc]⟩

theorem readQuoted?_closed {style : Style} (single : style.spanning = false) (text : List Char) :
    readQuoted? style (.quotes 1) text = some ([], text) := by
  have one : style.closing = (1, 1) := by simp [Style.closing, single]
  cases text with
  | nil => simp [readQuoted?, one]
  | cons c rest => simp [readQuoted?, one]

/-- Within one line, a quoted text without escapes stands for itself. -/
theorem readQuoted?_prefix {style : Style} {quoted : List Char} (single : style.spanning = false)
    (read : readQuoted? style .plain text = some (quoted, rest)) :
    ∃ own, text = own ++ rest ∧ ('\\' ∉ own → quoted <+: own) := by
  induction text generalizing quoted with
  | nil => simp [readQuoted?] at read
  | cons c others ih =>
      unfold readQuoted? at read
      simp only at read
      split at read
      · cases read
      · rename_i front next step
        split at read
        · rename_i more after later
          cases read
          obtain ⟨own, whole⟩ := readQuoted?_suffix later
          have taken : c :: others = (c :: own) ++ rest := by rw [← whole, List.cons_append]
          by_cases escape : c = '\\'
          · refine ⟨c :: own, taken, fun plain => ?_⟩
            rw [escape] at plain
            exact absurd List.mem_cons_self plain
          · by_cases closing : c = style.quote
            · simp only [quoteStep, plainStep, if_pos closing] at step
              cases step
              rw [readQuoted?_closed single] at later
              cases later
              exact ⟨c :: own, taken, fun _ => List.nil_prefix⟩
            · have plainly : front = [c] ∧ next = .plain := by
                simp only [quoteStep, plainStep, if_neg closing, escape, single, decide_false,
                  Bool.false_and, Bool.false_eq_true, if_false] at step
                split at step
                · cases step
                · split at step
                  · cases step
                    exact ⟨rfl, rfl⟩
                  · cases step
              rw [plainly.2] at later
              obtain ⟨inner, parts, begins⟩ := ih later
              refine ⟨c :: inner, by rw [parts, List.cons_append], fun plain => ?_⟩
              simp only [List.mem_cons, not_or] at plain
              rw [plainly.1]
              exact List.cons_prefix_cons.mpr ⟨rfl, begins plain.2⟩
        · cases read

theorem readQuoted?_spells {style : Style} {quoted : List Char} (single : style.spanning = false)
    (read : readQuoted? style .plain text = some (quoted, rest)) : Spells text rest quoted := by
  obtain ⟨own, whole, begins⟩ := readQuoted?_prefix single read
  exact ⟨own, whole, fun plain => (begins plain).isInfix⟩

theorem readKeyPart?_spells {part : List Char} (read : readKeyPart? text = some (part, rest)) :
    Spells text rest part := by
  unfold readKeyPart? at read
  split at read
  · exact (readQuoted?_spells rfl read).widen (List.suffix_cons _ _) (List.suffix_refl _)
  · exact (readQuoted?_spells rfl read).widen (List.suffix_cons _ _) (List.suffix_refl _)
  · split at read
    · cases read
    · cases read
      exact ⟨text.takeWhile isKeyChar, List.takeWhile_append_dropWhile.symm,
        fun _ => List.infix_refl _⟩

theorem readKeyWithin?_spells {count : Nat} {parts : List (List Char)}
    (read : readKeyWithin? count text = some (parts, rest)) :
    ∀ part ∈ parts, Spells text rest part := by
  induction count generalizing text parts with
  | zero => cases read
  | succ count ih =>
      have behind : rest <:+ text := readKeyWithin?_suffix read
      unfold readKeyWithin? at read
      split at read
      · cases read
      · rename_i first after named
        have own : Spells text (skipBlanks after) first :=
          (readKeyPart?_spells named).widen (skipBlanks_suffix text) (skipBlanks_suffix after)
        have ahead : skipBlanks after <:+ text :=
          ((skipBlanks_suffix after).trans (readKeyPart?_suffix named)).trans
            (skipBlanks_suffix text)
        split at read
        · rename_i others dot
          split at read
          · rename_i later
            cases read
            rw [dot] at own ahead
            have tail : others <:+ '.' :: others := List.suffix_cons '.' others
            intro part member
            rcases List.mem_cons.mp member with here | there
            · rw [here]
              exact own.widen (List.suffix_refl _) ((readKeyWithin?_suffix later).trans tail)
            · exact (ih later part there).widen (tail.trans ahead) (List.suffix_refl _)
          · cases read
        · cases read
          intro part member
          rw [List.mem_singleton.mp member]
          exact own

theorem readKey?_spells {path : List (List Char)} (read : readKey? text = some (path, rest)) :
    ∀ part ∈ path, Spells text rest part :=
  readKeyWithin?_spells read

/-! Keys between braces -/

theorem mem_settle {α : Type} {name : α → List Char} {brought : Bool} {item other : α}
    {items : List α} (member : other ∈ settle name brought item items) :
    other = item ∨ other ∈ items := by
  unfold settle at member
  split at member
  · rcases List.mem_append.mp member with old | new
    · exact .inr (List.mem_of_mem_filter old)
    · exact .inl (List.mem_singleton.mp new)
  · split at member
    · exact .inr member
    · rcases List.mem_append.mp member with old | new
      · exact .inr old
      · exact .inl (List.mem_singleton.mp new)

/-- The keys of a table between braces begin its entries. -/
theorem inlineTable?_keys {entries : List (List (List Char) × Toml)}
    (built : inlineTable? entries = some value) :
    ∀ key ∈ value.members.map Prod.fst, ∃ entry ∈ entries, key ∈ entry.1 := by
  obtain ⟨members, run, same⟩ := Option.map_eq_some_iff.mp built
  cases same
  refine foldlM_invariant
    (fun members => ∀ key ∈ members.map Prod.fst, ∃ entry ∈ entries, key ∈ entry.1)
    (fun entry among members after known put => ?_) (by simp) run
  have puts := putDotted_puts put
  obtain ⟨first, rest, path⟩ := List.exists_cons_of_ne_nil puts.path_ne_nil
  rw [path] at puts
  intro key member
  rw [puts.keys] at member
  rcases mem_settle member with new | old
  · exact ⟨entry, among, by rw [path, new]; exact List.mem_cons_self⟩
  · exact known key old

theorem readEntries?_spells {fuel depth : Nat} {entries : List (List (List Char) × Toml)}
    (read : readEntries? fuel depth text = some (entries, rest)) :
    ∀ entry ∈ entries, ∀ part ∈ entry.1, Spells text rest part := by
  induction fuel generalizing depth text entries with
  | zero => simp [readEntries?] at read
  | succ fuel ih =>
      have behind : rest <:+ text := (leavesEnds (fuel + 1)).entries read
      unfold readEntries? at read
      split at read
      · rename_i path others named
        have own := readKey?_spells named
        split at read
        · cases read
        · rename_i value afterValue first
          have ahead : skipBlanks afterValue <:+ '=' :: others :=
            calc skipBlanks afterValue <:+ afterValue := skipBlanks_suffix afterValue
              _ <:+ skipBlanks others := readValue?_suffix first
              _ <:+ others := skipBlanks_suffix others
              _ <:+ '=' :: others := List.suffix_cons '=' others
          split at read
          · rename_i tail comma
            split at read
            · rename_i more
              cases read
              have inside : tail <:+ '=' :: others := by
                rw [comma] at ahead
                exact (List.suffix_cons ',' tail).trans ahead
              have last : rest <:+ tail := (leavesEnds fuel).entries more
              intro entry member part among
              rcases List.mem_cons.mp member with here | there
              · rw [here] at among
                exact (own part among).widen (List.suffix_refl _) (last.trans inside)
              · exact (ih more entry there part among).widen
                  (inside.trans (readKey?_suffix named)) (List.suffix_refl _)
            · cases read
          · rename_i tail closed
            cases read
            rw [closed] at ahead
            intro entry member part among
            rw [List.mem_singleton.mp member] at among
            exact (own part among).widen (List.suffix_refl _)
              ((List.suffix_cons '}' rest).trans ahead)
          · cases read
      · cases read

/-- A value has members only if it is read between braces, and none is an array of tables. -/
theorem readValue?_braced {fuel depth : Nat}
    (read : readValue? fuel depth text = some (value, rest)) :
    (∃ inside entries steps levels, inside <:+ text ∧
      readEntries? steps levels inside = some (entries, rest) ∧ inlineTable? entries = some value) ∨
      value.members = [] ∧ ∀ items, value ≠ .tables items := by
  cases fuel with
  | zero => simp [readValue?] at read
  | succ fuel =>
      unfold readValue? at read
      split at read
      · obtain ⟨_, _, same⟩ := Option.map_eq_some_iff.mp read
        cases same
        exact .inr ⟨rfl, fun _ same => by cases same⟩
      · obtain ⟨_, _, same⟩ := Option.map_eq_some_iff.mp read
        cases same
        exact .inr ⟨rfl, fun _ same => by cases same⟩
      · split at read
        · cases read
        · obtain ⟨_, _, same⟩ := Option.map_eq_some_iff.mp read
          cases same
          exact .inr ⟨rfl, fun _ same => by cases same⟩
      · rename_i others
        split at read
        · cases read
        · split at read
          · cases read
            exact .inr ⟨rfl, fun _ same => by cases same⟩
          · split at read
            · rename_i entries after inner
              obtain ⟨table, built, same⟩ := Option.map_eq_some_iff.mp read
              cases same
              have ahead := (skipBlanks_suffix others).trans (List.suffix_cons '{' others)
              exact .inl ⟨_, entries, _, _, ahead, inner, built⟩
            · cases read
      · cases read
        exact .inr ⟨rfl, fun _ same => by cases same⟩
      · cases read
        exact .inr ⟨rfl, fun _ same => by cases same⟩
      · rcases readNumeral?_value read with moment | float | ⟨number, integer⟩
        · rw [moment]
          exact .inr ⟨rfl, fun _ same => by cases same⟩
        · rw [float]
          exact .inr ⟨rfl, fun _ same => by cases same⟩
        · rw [integer]
          exact .inr ⟨rfl, fun _ same => by cases same⟩

theorem readValue?_spells {fuel depth : Nat}
    (read : readValue? fuel depth text = some (value, rest)) :
    ∀ key ∈ value.members.map Prod.fst, Spells text rest key := by
  intro key member
  rcases readValue?_braced read with ⟨inside, entries, steps, levels, ahead, inner, built⟩ | plain
  · obtain ⟨entry, among, part⟩ := inlineTable?_keys built key member
    exact (readEntries?_spells inner entry among key part).widen ahead (List.suffix_refl _)
  · rw [plain.1] at member
    cases member

theorem readValue?_ne_tables {fuel depth : Nat}
    (read : readValue? fuel depth text = some (value, rest)) (items : List Toml) :
    value ≠ .tables items := by
  rcases readValue?_braced read with ⟨inside, entries, steps, levels, ahead, inner, built⟩ | plain
  · obtain ⟨members, run, same⟩ := Option.map_eq_some_iff.mp built
    rw [← same]
    exact fun equal => by cases equal
  · exact plain.2 items

/-! Keys of a statement -/

/-- The keys that a statement names itself: those of its path and those between its braces. -/
def Statement.ownKeys : Statement → List (List Char)
  | .table path | .tables path => path
  | .entry path value => path ++ value.members.map Prod.fst

theorem readStatement?_spells {statement : Statement}
    (read : readStatement? text = some (statement, rest)) :
    ∀ key ∈ statement.ownKeys, Spells text rest key := by
  unfold readStatement? at read
  split at read
  · split at read
    · rename_i named
      cases read
      intro key member
      exact (readKey?_spells named key member).widen ⟨['[', '['], rfl⟩ ⟨[']', ']'], rfl⟩
    · cases read
  · split at read
    · rename_i named
      cases read
      intro key member
      exact (readKey?_spells named key member).widen (List.suffix_cons _ _) (List.suffix_cons _ _)
    · cases read
  · split at read
    · rename_i path others named
      obtain ⟨⟨value, after⟩, inner, same⟩ := Option.map_eq_some_iff.mp read
      cases same
      have ahead : skipBlanks others <:+ '=' :: others :=
        (skipBlanks_suffix others).trans (List.suffix_cons '=' others)
      intro key member
      rcases List.mem_append.mp member with own | braced
      · exact (readKey?_spells named key own).widen (List.suffix_refl _)
          ((readValue?_suffix inner).trans ahead)
      · exact (readValue?_spells inner key braced).widen
          (ahead.trans (readKey?_suffix named)) (List.suffix_refl _)
    · cases read

theorem Lays.spelled {line : Nat} {table : List (List Char)} {placed : List Placed}
    (lays : Lays line table text placed) {statement : Placed} (member : statement ∈ placed)
    (plain : '\\' ∉ statement.text) :
    ∀ key ∈ statement.statement.ownKeys, key <:+: statement.text := by
  obtain ⟨front, back, whole, number, read⟩ := lays.located statement member
  intro key named
  obtain ⟨own, parts, inside⟩ := readStatement?_spells read key named
  have same : own = statement.text := List.append_cancel_right parts.symm
  rw [same] at inside
  exact inside plain

end LiveSelector.Toml
