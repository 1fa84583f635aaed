import LiveSelector.Proofs.Json.Grammar
import Mathlib.Data.List.DropRight
import Mathlib.Tactic.IntervalCases

namespace LiveSelector.Json

/-! The reader follows the grammar.  What it takes of a text is settled by the text up to the first
character that the phrase cannot go on with, so each part of a value is read whole and nothing of
what follows it.  By induction on the grammar every text that denotes a value is read as this value,
and so denotes no other. -/

variable {digits : List Nat} {after text chars : List Char} {digit : Nat}

theorem isDigit_digitChar (small : digit < 10) : (Nat.digitChar digit).isDigit = true := by
  interval_cases digit <;> rfl

theorem toNat_digitChar (small : digit < 10) : (Nat.digitChar digit).toNat - 48 = digit := by
  interval_cases digit <;> rfl

theorem isDigit_of_mem_rowText (row : ∀ digit ∈ digits, digit < 10) :
    ∀ c ∈ rowText digits, c.isDigit = true := by
  intro c inside
  obtain ⟨digit, member, rfl⟩ := List.mem_map.mp inside
  exact isDigit_digitChar (row digit member)

theorem readDigits_rowText (row : ∀ digit ∈ digits, digit < 10)
    (ends : ∀ c ∈ after.head?, c.isDigit = false) :
    readDigits (rowText digits ++ after) = (digits, after) := by
  have all := isDigit_of_mem_rowText row
  have stops : after.takeWhile Char.isDigit = [] ∧ after.dropWhile Char.isDigit = after := by
    cases after with
    | nil => exact ⟨rfl, rfl⟩
    | cons c rest =>
        have other : c.isDigit = false := ends c rfl
        simp [other]
  rw [readDigits, List.takeWhile_append_of_pos all, List.dropWhile_append_of_pos all, stops.1,
    stops.2, List.append_nil, rowText, List.map_map]
  refine Prod.ext ?_ rfl
  refine (List.map_congr_left fun digit member => ?_).trans (List.map_id digits)
  exact toNat_digitChar (row digit member)

/-- A row of digits begins with a digit. -/
theorem IsRow.head (row : IsRow digits) :
    ∃ c more, rowText digits = c :: more ∧ c.isDigit = true := by
  obtain ⟨first, rest, rfl⟩ := List.exists_cons_of_ne_nil row.1
  exact ⟨_, _, rfl, isDigit_digitChar (row.2 first (by simp))⟩

theorem readFraction?_of_spells {fraction : Option (List Nat)}
    (spelled : SpellsFraction text fraction)
    (ends : ∀ c ∈ after.head?, c.isDigit = false ∧ c ≠ '.') :
    readFraction? (text ++ after) = some (fraction, after) := by
  cases spelled with
  | absent =>
      cases after with
      | nil => rfl
      | cons c rest =>
          have notPoint : c ≠ '.' := (ends c rfl).2
          simp only [List.nil_append]
          unfold readFraction?
          split
          · simp_all
          · rfl
  | present row =>
      have read := readDigits_rowText row.2 fun c head => (ends c head).1
      obtain ⟨first, rest, rfl⟩ := List.exists_cons_of_ne_nil row.1
      simp only [List.cons_append, readFraction?, read]

theorem readExponent?_of_spells {exponent : Option Int} (spelled : SpellsExponent text exponent)
    (ends : ∀ c ∈ after.head?, c.isDigit = false ∧ ¬ IsMark c) :
    readExponent? (text ++ after) = some (exponent, after) := by
  have stops : ∀ c ∈ after.head?, c.isDigit = false := fun c head => (ends c head).1
  cases spelled with
  | absent =>
      cases after with
      | nil => rfl
      | cons c rest =>
          have unmarked : ¬ IsMark c := (ends c rfl).2
          simp only [IsMark, not_or] at unmarked
          simp [readExponent?, unmarked]
  | unsigned marked row =>
      have read := readDigits_rowText row.2 stops
      obtain ⟨c, more, begins, isDigit⟩ := row.head
      obtain ⟨first, rest, rfl⟩ := List.exists_cons_of_ne_nil row.1
      -- The first digit is no sign.
      rw [begins, List.cons_append] at read
      rw [begins]
      have noSign : c ≠ '-' ∧ c ≠ '+' := by
        constructor <;> rintro rfl <;> contradiction
      rcases marked with rfl | rfl <;> simp [readExponent?, read, noSign]
  | positive marked row =>
      have read := readDigits_rowText row.2 stops
      obtain ⟨first, rest, rfl⟩ := List.exists_cons_of_ne_nil row.1
      rcases marked with rfl | rfl <;> simp [readExponent?, read]
  | negative marked row =>
      have read := readDigits_rowText row.2 stops
      obtain ⟨first, rest, rfl⟩ := List.exists_cons_of_ne_nil row.1
      rcases marked with rfl | rfl <;> simp [readExponent?, read]

/-- What follows a value begins with nothing that a number could go on with. -/
def Stops (after : List Char) : Prop :=
  ∀ c ∈ after.head?, isGap c = true ∨ c = ',' ∨ c = ']' ∨ c = '}'

theorem Stops.head (stops : Stops after) :
    ∀ c ∈ after.head?, c.isDigit = false ∧ c ≠ '.' ∧ ¬ IsMark c := by
  intro c begins
  have known := stops c begins
  simp only [isGap, Bool.or_eq_true, beq_iff_eq] at known
  rcases known with (((rfl | rfl) | rfl) | rfl) | rfl | rfl | rfl <;> decide

theorem head?_exponent {exponent : Option Int} (spelled : SpellsExponent text exponent) :
    ∀ c ∈ (text ++ after).head?, IsMark c ∨ c ∈ after.head? := by
  intro c begins
  cases spelled with
  | absent => exact .inr begins
  | unsigned marked row =>
      cases begins
      exact .inl marked
  | positive marked row =>
      cases begins
      exact .inl marked
  | negative marked row =>
      cases begins
      exact .inl marked

theorem head?_fraction {fraction : Option (List Nat)} (spelled : SpellsFraction text fraction) :
    ∀ c ∈ (text ++ after).head?, c = '.' ∨ c ∈ after.head? := by
  intro c begins
  cases spelled with
  | absent => exact .inr begins
  | present row =>
      cases begins
      exact .inl rfl

theorem not_isDigit_of_isMark {c : Char} (marked : IsMark c) : c.isDigit = false ∧ c ≠ '.' := by
  rcases marked with rfl | rfl <;> decide

theorem readSpelling?_of_parts {c : Char} {more afterWhole afterPoint : List Char}
    {whole : List Nat} {fraction : Option (List Nat)} {exponent : Option Int} (noSign : c ≠ '-')
    (some_digit : whole ≠ []) (bare : whole.head? = some 0 → whole = [0])
    (whole_read : readDigits (c :: more) = (whole, afterWhole))
    (point_read : readFraction? afterWhole = some (fraction, afterPoint))
    (power_read : readExponent? afterPoint = some (exponent, after)) (negative : Bool) :
    readSpelling? (signText negative ++ c :: more) =
      some (⟨negative, whole, fraction, exponent⟩, after) := by
  obtain ⟨first, rest, rfl⟩ := List.exists_cons_of_ne_nil some_digit
  by_cases zero : first = 0
  · subst zero
    obtain ⟨_, rfl⟩ := List.cons.inj (bare rfl)
    cases negative with
    | true => simp [readSpelling?, signText, whole_read, point_read, power_read]
    | false => simp [readSpelling?, signText, noSign, whole_read, point_read, power_read]
  · obtain ⟨number, rfl⟩ := Nat.exists_eq_succ_of_ne_zero zero
    cases negative with
    | true => simp [readSpelling?, signText, whole_read, point_read, power_read]
    | false => simp [readSpelling?, signText, noSign, whole_read, point_read, power_read]

theorem readSpelling?_of_spells {spelling : Spelling} (spelled : SpellsNumber text spelling)
    (stops : Stops after) : readSpelling? (text ++ after) = some (spelling, after) := by
  cases spelled with
  | @parts whole fraction exponent fractionText exponentText negative row bare point power =>
      have afterPower := stops.head
      have afterPoint : ∀ c ∈ (exponentText ++ after).head?, c.isDigit = false ∧ c ≠ '.' := by
        intro c begins
        rcases head?_exponent power c begins with marked | behind
        · exact not_isDigit_of_isMark marked
        · exact ⟨(afterPower c behind).1, (afterPower c behind).2.1⟩
      have afterWhole : ∀ c ∈ (fractionText ++ (exponentText ++ after)).head?,
          c.isDigit = false := by
        intro c begins
        rcases head?_fraction point c begins with rfl | behind
        · rfl
        · exact (afterPoint c behind).1
      have power_read := readExponent?_of_spells power fun c begins =>
        ⟨(afterPower c begins).1, (afterPower c begins).2.2⟩
      have point_read := readFraction?_of_spells point afterPoint
      have whole_read := readDigits_rowText row.2 afterWhole
      obtain ⟨c, more, begins, isDigit⟩ := row.head
      have noSign : c ≠ '-' := by
        rintro rfl
        contradiction
      rw [begins, List.cons_append] at whole_read
      simp only [begins, List.append_assoc, List.cons_append]
      exact readSpelling?_of_parts noSign row.1 bare whole_read point_read power_read negative

theorem readNumber?_of_spells {spelling : Spelling} {number : Number}
    (spelled : SpellsNumber text spelling) (known : spelling.number? = some number)
    (stops : Stops after) : readNumber? (text ++ after) = some (.number number, after) := by
  simp only [readNumber?, readSpelling?_of_spells spelled stops, known, Option.map_some]

theorem ofCodes?_cons {code : Nat} {codes : List Nat} (notHigh : isHighHalf code = false)
    (notLow : isLowHalf code = false) :
    ofCodes? (code :: codes) = (ofCodes? codes).map (Char.ofNat code :: ·) := by
  cases codes with
  | nil => simp [ofCodes?, notHigh, notLow]
  | cons next rest => simp [ofCodes?, notHigh, notLow]

theorem not_half (c : Char) : isHighHalf c.toNat = false ∧ isLowHalf c.toNat = false := by
  have valid := c.valid
  simp only [UInt32.isValidChar, Nat.isValidChar] at valid
  have same : c.toNat = c.val.toNat := rfl
  simp only [isHighHalf, isLowHalf, Bool.and_eq_false_iff, decide_eq_false_iff_not]
  omega

theorem ofCodes?_char (c : Char) (codes : List Nat) :
    ofCodes? (c.toNat :: codes) = (ofCodes? codes).map (c :: ·) := by
  rw [ofCodes?_cons (not_half c).1 (not_half c).2, Char.ofNat_toNat]

theorem readCodes?_of_spells (spelled : SpellsChars text chars) (after : List Char) :
    ∃ codes, readCodes? (text ++ '"' :: after) = some (codes, after) ∧
      ofCodes? codes = some chars := by
  induction spelled with
  | nil => exact ⟨[], rfl, rfl⟩
  | @plain c text chars printed notQuote notSlash rest ih =>
      obtain ⟨codes, read, known⟩ := ih
      refine ⟨c.toNat :: codes, ?_, by rw [ofCodes?_char, known, Option.map_some]⟩
      have shown : ¬ c.toNat < 0x20 := by omega
      simp [readCodes?, notSlash, shown, read]
  | @letter mark c text chars known rest ih =>
      obtain ⟨codes, read, plain⟩ := ih
      refine ⟨c.toNat :: codes, ?_, by rw [ofCodes?_char, plain, Option.map_some]⟩
      have notCode : mark ≠ 'u' := by
        rintro rfl
        contradiction
      simp [readCodes?, notCode, known, read]
  | @code h₁ h₂ h₃ h₄ n text chars spelled notHigh notLow rest ih =>
      obtain ⟨codes, read, plain⟩ := ih
      refine ⟨n :: codes, ?_, by rw [ofCodes?_cons notHigh notLow, plain, Option.map_some]⟩
      simp [readCodes?, spelled, read]
  | @pair h₁ h₂ h₃ h₄ l₁ l₂ l₃ l₄ high low text chars first isHigh second isLow rest ih =>
      obtain ⟨codes, read, plain⟩ := ih
      refine ⟨high :: low :: codes, ?_, by simp [ofCodes?, isHigh, isLow, plain]⟩
      simp [readCodes?, first, second, read]

theorem unquote?_of_spells (spelled : SpellsChars text chars) (after : List Char) :
    unquote? (text ++ '"' :: after) = some (chars, after) := by
  obtain ⟨codes, read, known⟩ := readCodes?_of_spells spelled after
  simp only [unquote?, read, known, Option.map_some]

theorem skipGap_append {gap : List Char} (blank : IsGap gap) (text : List Char) :
    skipGap (gap ++ text) = skipGap text :=
  List.dropWhile_append_of_pos blank

theorem skipGap_skipGap (text : List Char) : skipGap (skipGap text) = skipGap text :=
  List.dropWhile_idempotent isGap text

theorem readValue?_skipGap (fuel : Nat) (text : List Char) :
    readValue? fuel (skipGap text) = readValue? fuel text := by
  cases fuel with
  | zero => rfl
  | succ fuel => rw [readValue?, readValue?, skipGap_skipGap]

theorem readItems?_skipGap (fuel : Nat) (text : List Char) :
    readItems? fuel (skipGap text) = readItems? fuel text := by
  cases fuel with
  | zero => rfl
  | succ fuel => rw [readItems?, readItems?, readValue?_skipGap]

theorem readMembers?_skipGap (fuel : Nat) (text : List Char) :
    readMembers? fuel (skipGap text) = readMembers? fuel text := by
  cases fuel with
  | zero => rfl
  | succ fuel => rw [readMembers?, readMembers?, skipGap_skipGap]

/-- A bracket begins no value. -/
theorem readItems?_bracket (fuel : Nat) (rest : List Char) :
    readItems? fuel (']' :: rest) = none := by
  have noValue : ∀ fuel, readValue? fuel (']' :: rest) = none := by
    intro fuel
    cases fuel with
    | zero => rfl
    | succ fuel =>
        simp [readValue?, skipGap, isGap, readNumber?, readSpelling?, readDigits, Char.isDigit]
  cases fuel with
  | zero => rfl
  | succ fuel => rw [readItems?, noValue]

theorem readMembers?_brace (fuel : Nat) (rest : List Char) :
    readMembers? fuel ('}' :: rest) = none := by
  cases fuel with
  | zero => rfl
  | succ fuel => simp [readMembers?, skipGap, isGap]

variable {fuel : Nat} {items : List Json} {members : List (String × Json)} {value : Json}
variable {key : String}

theorem readValue?_array (read : readItems? fuel text = some (items, after)) :
    readValue? (fuel + 1) ('[' :: text) = some (.array items, after) := by
  rw [← readItems?_skipGap] at read
  have inside : skipGap ('[' :: text) = '[' :: text := rfl
  rw [readValue?, inside]
  simp only
  split
  · rename_i rest closed
    rw [closed, readItems?_bracket] at read
    contradiction
  · rw [read]

theorem readValue?_object (read : readMembers? fuel text = some (members, after)) :
    readValue? (fuel + 1) ('{' :: text) = some (ofMembers members, after) := by
  rw [← readMembers?_skipGap] at read
  have inside : skipGap ('{' :: text) = '{' :: text := rfl
  rw [readValue?, inside]
  simp only
  split
  · rename_i rest closed
    rw [closed, readMembers?_brace] at read
    contradiction
  · rw [read]

theorem SpellsNumber.head {spelling : Spelling} (spelled : SpellsNumber text spelling) :
    ∃ c more, text = c :: more ∧ (c = '-' ∨ c.isDigit = true) := by
  cases spelled with
  | parts negative row bare point power =>
      obtain ⟨c, more, begins, isDigit⟩ := row.head
      cases negative with
      | true => exact ⟨'-', _, rfl, .inl rfl⟩
      | false =>
          simp only [signText, begins, List.nil_append, List.cons_append]
          exact ⟨c, _, rfl, .inr isDigit⟩

theorem readValue?_number {spelling : Spelling} {number : Number}
    (spelled : SpellsNumber text spelling) (known : spelling.number? = some number)
    (stops : Stops after) :
    readValue? (fuel + 1) (text ++ after) = some (.number number, after) := by
  have read := readNumber?_of_spells spelled known stops
  obtain ⟨c, more, rfl, begins⟩ := spelled.head
  -- No other value begins so.
  have other : isGap c = false ∧ c ∉ ['[', '{', '"', 'n', 't', 'f'] := by
    rcases begins with rfl | isDigit
    · decide
    · constructor
      · cases gap : isGap c with
        | false => rfl
        | true =>
            simp only [isGap, Bool.or_eq_true, beq_iff_eq] at gap
            rcases gap with ((rfl | rfl) | rfl) | rfl <;> contradiction
      · rintro inside
        simp only [List.mem_cons, List.not_mem_nil, or_false] at inside
        rcases inside with rfl | rfl | rfl | rfl | rfl | rfl <;> contradiction
  have inside : skipGap (c :: (more ++ after)) = c :: (more ++ after) := by
    simp [skipGap, other.1]
  simp only [List.mem_cons, List.not_mem_nil, or_false, not_or] at other
  rw [List.cons_append, readValue?, inside]
  split <;> simp_all

theorem Stops.append {gap : List Char} (blank : IsGap gap) (stops : Stops after) :
    Stops (gap ++ after) := by
  cases gap with
  | nil => exact stops
  | cons c rest =>
      intro first begins
      cases begins
      exact .inl (blank c (by simp))

theorem stops_cons {c : Char} (token : c = ',' ∨ c = ']' ∨ c = '}') (rest : List Char) :
    Stops (c :: rest) := by
  intro first begins
  cases begins
  exact .inr token

/-- A member at the start of a text is read, and what is left of the text is the rest and blanks. -/
def ReadsMember (fuel : Nat) (text : List Char) (key : String) (value : Json)
    (after : List Char) : Prop :=
  ∃ name chars behind inner rest,
    skipGap text = '"' :: name ∧ unquote? name = some (chars, behind) ∧
      skipGap behind = ':' :: inner ∧ readValue? fuel inner = some (value, rest) ∧
      skipGap rest = skipGap after ∧ .ofList chars = key

/-- A text is read as the phrase that it spells, whatever follows it.  As many steps as it has
characters are enough. -/
def Reads (text : List Char) : Phrase → Prop
  | .value value => ∀ fuel after, text.length ≤ fuel → Stops after →
      readValue? fuel (text ++ after) = some (value, after)
  | .element value => ∀ fuel after, text.length ≤ fuel → Stops after →
      ∃ rest, readValue? fuel (text ++ after) = some (value, rest) ∧ skipGap rest = skipGap after
  | .elements items => ∀ fuel after, text.length < fuel →
      readItems? fuel (text ++ ']' :: after) = some (items, after)
  | .member key value => ∀ fuel after, text.length ≤ fuel → Stops after →
      ReadsMember fuel (text ++ after) key value after
  | .members members => ∀ fuel after, text.length < fuel →
      readMembers? fuel (text ++ '}' :: after) = some (members, after)

section Steps

variable {order : List String → Prop} {phrase : Phrase} {more : List Char}

theorem reads_number {spelling : Spelling} {number : Number}
    (spelled : SpellsNumber text spelling) (known : spelling.number? = some number) :
    Reads text (.value (.number number)) := by
  intro fuel after enough stops
  obtain ⟨c, rest, begins, _⟩ := spelled.head
  cases fuel with
  | zero => simp [begins] at enough
  | succ fuel => exact readValue?_number spelled known stops

theorem reads_string (spelled : SpellsString text key) : Reads text (.value (.string key)) := by
  intro fuel after enough stops
  cases spelled with
  | quotes inner =>
      cases fuel with
      | zero => simp at enough
      | succ fuel =>
          have read := unquote?_of_spells inner after
          simp [readValue?, skipGap, isGap, read]

theorem reads_emptyArray (blank : IsGap text) :
    Reads ('[' :: text ++ [']']) (.value (.array [])) := by
  intro fuel after enough stops
  cases fuel with
  | zero => simp at enough
  | succ fuel =>
      have inside : skipGap ('[' :: (text ++ ']' :: after)) = '[' :: (text ++ ']' :: after) := rfl
      have closed : skipGap (text ++ ']' :: after) = ']' :: after := skipGap_append blank _
      simp only [List.cons_append, List.append_assoc, List.nil_append, readValue?, inside, closed]

theorem reads_emptyObject (blank : IsGap text) :
    Reads ('{' :: text ++ ['}']) (.value (.object [])) := by
  intro fuel after enough stops
  cases fuel with
  | zero => simp at enough
  | succ fuel =>
      have inside : skipGap ('{' :: (text ++ '}' :: after)) = '{' :: (text ++ '}' :: after) := rfl
      have closed : skipGap (text ++ '}' :: after) = '}' :: after := skipGap_append blank _
      simp only [List.cons_append, List.append_assoc, List.nil_append, readValue?, inside, closed]

theorem reads_array (inner : Reads text (.elements items)) :
    Reads ('[' :: text ++ [']']) (.value (.array items)) := by
  intro fuel after enough stops
  simp only [List.length_append, List.length_cons, List.length_nil] at enough
  cases fuel with
  | zero => contradiction
  | succ fuel =>
      have read := inner fuel after (by omega)
      rw [List.append_assoc]
      exact readValue?_array read

theorem reads_object (inner : Reads text (.members members)) :
    Reads ('{' :: text ++ ['}']) (.value (ofMembers members)) := by
  intro fuel after enough stops
  simp only [List.length_append, List.length_cons, List.length_nil] at enough
  cases fuel with
  | zero => contradiction
  | succ fuel =>
      have read := inner fuel after (by omega)
      rw [List.append_assoc]
      exact readValue?_object read

theorem reads_element {front back : List Char} (before : IsGap front) (behind : IsGap back)
    (inner : Reads text (.value value)) : Reads (front ++ text ++ back) (.element value) := by
  intro fuel after enough stops
  simp only [List.length_append] at enough
  refine ⟨back ++ after, ?_, skipGap_append behind after⟩
  rw [← readValue?_skipGap, List.append_assoc, List.append_assoc, skipGap_append before,
    readValue?_skipGap]
  exact inner fuel (back ++ after) (by omega) (stops.append behind)

theorem reads_lastElement (last : Reads text (.element value)) :
    Reads text (.elements [value]) := by
  intro fuel after enough
  cases fuel with
  | zero => contradiction
  | succ fuel =>
      obtain ⟨rest, read, left⟩ :=
        last fuel (']' :: after) (by omega) (stops_cons (.inr (.inl rfl)) after)
      have closed : skipGap rest = ']' :: after := left
      simp only [readItems?, read, closed]

theorem reads_nextElement (first : Reads text (.element value))
    (rest : Reads more (.elements items)) :
    Reads (text ++ ',' :: more) (.elements (value :: items)) := by
  intro fuel after enough
  simp only [List.length_append, List.length_cons] at enough
  cases fuel with
  | zero => contradiction
  | succ fuel =>
      obtain ⟨left, read, gone⟩ :=
        first fuel (',' :: (more ++ ']' :: after)) (by omega) (stops_cons (.inl rfl) _)
      have comma : skipGap left = ',' :: (more ++ ']' :: after) := gone
      have others := rest fuel after (by omega)
      simp only [List.append_assoc, List.cons_append, readItems?, read, comma, others]

theorem reads_member {name front back : List Char} (before : IsGap front)
    (named : SpellsString name key) (behind : IsGap back) (inner : Reads text (.element value)) :
    Reads (front ++ name ++ back ++ ':' :: text) (.member key value) := by
  intro fuel after enough stops
  simp only [List.length_append, List.length_cons] at enough
  obtain ⟨rest, valued, left⟩ := inner fuel after (by omega) stops
  cases named with
  | @quotes inside chars spelled =>
      refine ⟨inside ++ '"' :: (back ++ ':' :: text ++ after), chars, back ++ ':' :: text ++ after,
        text ++ after, rest, ?_, unquote?_of_spells spelled _, ?_, valued, left, rfl⟩
      · simp only [List.append_assoc, List.cons_append, List.nil_append, skipGap_append before]
        rfl
      · simp only [List.append_assoc, List.cons_append, skipGap_append behind]
        rfl

theorem reads_lastMember (last : Reads text (.member key value)) :
    Reads text (.members [(key, value)]) := by
  intro fuel after enough
  cases fuel with
  | zero => contradiction
  | succ fuel =>
      obtain ⟨name, chars, behind, inner, rest, opened, named, colon, read, left, rfl⟩ :=
        last fuel ('}' :: after) (by omega) (stops_cons (.inr (.inr rfl)) after)
      have closed : skipGap rest = '}' :: after := left
      simp only [readMembers?, opened, named, colon, read, closed]

theorem reads_nextMember (first : Reads text (.member key value))
    (rest : Reads more (.members members)) :
    Reads (text ++ ',' :: more) (.members ((key, value) :: members)) := by
  intro fuel after enough
  simp only [List.length_append, List.length_cons] at enough
  cases fuel with
  | zero => contradiction
  | succ fuel =>
      obtain ⟨name, chars, behind, inner, left, opened, named, colon, read, gone, rfl⟩ :=
        first fuel (',' :: (more ++ '}' :: after)) (by omega) (stops_cons (.inl rfl) _)
      have comma : skipGap left = ',' :: (more ++ '}' :: after) := gone
      have others := rest fuel after (by omega)
      rw [List.append_assoc, List.cons_append]
      simp only [readMembers?, opened, named, colon, read, comma, others]

/-- The reader accepts what the grammar has, and gives the value. -/
theorem reads_of_spells (spelled : Spells order text phrase) : Reads text phrase := by
  induction spelled with
  | nullWord | trueWord | falseWord =>
      intro fuel after enough stops
      obtain ⟨surplus, rfl⟩ := Nat.exists_eq_add_of_le' enough
      rfl
  | number spelled known => exact reads_number spelled known
  | string spelled => exact reads_string spelled
  | emptyArray blank => exact reads_emptyArray blank
  | array _ inner => exact reads_array inner
  | emptyObject blank => exact reads_emptyObject blank
  | object _ _ inner => exact reads_object inner
  | element before _ behind inner => exact reads_element before behind inner
  | lastElement _ last => exact reads_lastElement last
  | nextElement _ _ first rest => exact reads_nextElement first rest
  | member before named behind _ inner => exact reads_member before named behind inner
  | lastMember _ last => exact reads_lastMember last
  | nextMember _ _ first rest => exact reads_nextMember first rest

end Steps

/-- The reader takes every text of the grammar, so a text denotes one value at most. -/
theorem read?_of_denotes {text : String} (denotes : Denotes text value) :
    read? text = some value := by
  have reads := reads_of_spells denotes
  obtain ⟨rest, read, left⟩ := reads (2 * text.toList.length + 1) [] (by omega) (by simp [Stops])
  rw [List.append_nil] at read
  simp only [read?, read, left]
  rfl

theorem Denotes.unique {text : String} {other : Json} (first : Denotes text value)
    (second : Denotes text other) : value = other :=
  Option.some.inj ((read?_of_denotes first).symm.trans (read?_of_denotes second))

end LiveSelector.Json
