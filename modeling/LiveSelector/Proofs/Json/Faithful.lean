import LiveSelector.Data.Table
import LiveSelector.Json.Printer
import LiveSelector.Proofs.Json.Reading
import Mathlib.Data.List.Induction

namespace LiveSelector.Json

/-! The spread form is faithful.  Every part of it spells what it was made from: a row of digits its
number, a quoted text its characters, and then, by induction on how a value is built, the whole text
the value, with the keys of each object in ascending order. -/

section Integers

variable {digits : List Nat} {significand : Nat}

theorem le_foldl_digits (digits : List Nat) (significand : Nat) :
    significand ≤ digits.foldl (fun value digit => value * 10 + digit) significand := by
  induction digits generalizing significand with
  | nil => exact Nat.le_refl significand
  | cons digit rest ih =>
      have further := ih (significand * 10 + digit)
      rw [List.foldl_cons]
      omega

theorem takeDigits_of_fits (fits :
      digits.foldl (fun value digit => value * 10 + digit) significand < significandBound) :
    takeDigits significand digits =
      (digits.foldl (fun value digit => value * 10 + digit) significand, 0) := by
  induction digits generalizing significand with
  | nil => rfl
  | cons digit rest ih =>
      rw [List.foldl_cons] at fits ⊢
      have here := le_foldl_digits rest (significand * 10 + digit)
      rw [takeDigits, if_pos (by omega)]
      exact ih fits

/-- A number is written as digits with no zero in front. -/
theorem toDigits_row (n : Nat) :
    ∃ digits, IsRow digits ∧ (digits.head? = some 0 → digits = [0]) ∧
      Nat.toDigits 10 n = rowText digits ∧ digitsValue digits = n := by
  induction n using Nat.strongRecOn with
  | ind n ih =>
      by_cases small : n < 10
      · refine ⟨[n], ⟨by simp, by simpa using small⟩, by simp, ?_, by simp [digitsValue]⟩
        exact Nat.toDigits_of_lt_base small
      · obtain ⟨digits, row, bare, text, value⟩ := ih (n / 10) (by omega)
        refine ⟨digits ++ [n % 10], ⟨by simp, ?_⟩, ?_, ?_, ?_⟩
        · intro digit inside
          rcases List.mem_append.mp inside with early | last
          · exact row.2 digit early
          · rw [List.mem_singleton.mp last]
            omega
        · intro zero
          rw [List.head?_append_of_ne_nil _ row.1] at zero
          rw [bare zero] at value
          simp only [digitsValue, List.foldl_cons, List.foldl_nil] at value
          omega
        · rw [Nat.toDigits_of_base_le (by decide) (by omega), text, rowText, rowText,
            List.map_append]
          rfl
        · simp only [digitsValue, List.foldl_append, List.foldl_cons, List.foldl_nil] at value ⊢
          omega

theorem spells_integer {n : Int} (least : -2 ^ 63 ≤ n) (greatest : n < 2 ^ 64) :
    ∃ spelling, SpellsNumber (integerText n) spelling ∧ spelling.number? = some (.int n) := by
  obtain ⟨digits, row, bare, text, value⟩ := toDigits_row n.natAbs
  have fits : digitsValue digits < significandBound := by
    rw [value]
    change n.natAbs < 2 ^ 64
    omega
  have taken : takeDigits 0 digits = (n.natAbs, 0) := by
    rw [← value]
    exact takeDigits_of_fits fits
  by_cases below : n < 0
  · refine ⟨⟨true, digits, none, none⟩, ?_, ?_⟩
    · have spelled := SpellsNumber.parts true row bare .absent .absent
      rw [← text] at spelled
      simpa [integerText, below, signText] using spelled
    · have present : 0 < n.natAbs := by omega
      have within : n.natAbs ≤ Nat.pow 2 63 := by
        change n.natAbs ≤ 2 ^ 63
        omega
      have same : -(n.natAbs : Int) = n := by omega
      simp [Spelling.number?, taken, present, within, same, -Nat.cast_natAbs]
  · refine ⟨⟨false, digits, none, none⟩, ?_, ?_⟩
    · have spelled := SpellsNumber.parts false row bare .absent .absent
      rw [← text] at spelled
      simpa [integerText, below, signText] using spelled
    · have same : (n.natAbs : Int) = n := by omega
      simp [Spelling.number?, taken, same, -Nat.cast_natAbs]

end Integers

section Strings

variable {text chars : List Char}

theorem hexValue?_hexDigit (n : Nat) (small : n < 16) : hexValue? (hexDigit n) = some n := by
  interval_cases n <;> rfl

theorem hexQuad?_hexDigit {n : Nat} (small : n < 0x20) :
    hexQuad? '0' '0' (hexDigit (n / 16)) (hexDigit (n % 16)) = some n := by
  have zero : hexValue? '0' = some 0 := rfl
  have high := hexValue?_hexDigit (n / 16) (by omega)
  have low := hexValue?_hexDigit (n % 16) (by omega)
  simp only [hexQuad?, zero, high, low, Option.some.injEq]
  omega

/-- A character as it is written, in front of other characters. -/
theorem spellsChars_escapeChar (c : Char) (rest : SpellsChars text chars) :
    SpellsChars (escapeChar c ++ text) (c :: chars) := by
  by_cases lettered : c ∈ ['"', '\\', '\x08', '\x0c', '\n', '\r', '\t']
  · simp only [List.mem_cons, List.not_mem_nil, or_false] at lettered
    rcases lettered with rfl | rfl | rfl | rfl | rfl | rfl | rfl <;> exact .letter rfl rest
  · simp only [List.mem_cons, List.not_mem_nil, or_false, not_or] at lettered
    by_cases control : c.toNat < 0x20
    · obtain ⟨notHigh, notLow⟩ := not_half c
      have code := SpellsChars.code (hexQuad?_hexDigit control) notHigh notLow rest
      rw [Char.ofNat_toNat] at code
      simpa [escapeChar, lettered, control] using code
    · have plain := SpellsChars.plain (by omega) lettered.1 lettered.2.1 rest
      simpa [escapeChar, lettered, control] using plain

theorem spellsChars_flatMap (chars : List Char) : SpellsChars (chars.flatMap escapeChar) chars := by
  induction chars with
  | nil => exact .nil
  | cons c rest ih => exact spellsChars_escapeChar c ih

theorem spellsString_quoted (string : String) : SpellsString (quoted string.toList) string := by
  have spelled := SpellsString.quotes (spellsChars_flatMap string.toList)
  rwa [String.ofList_toList] at spelled

end Strings

section Members

variable {key : String} {value : Json} {kept members : List (String × Json)}

def sorted (members : List (String × Json)) : List (String × Json) :=
  members.foldl (fun kept (key, value) => putMember key value kept) []

theorem ofMembers_eq (members : List (String × Json)) :
    ofMembers members = .object (sorted members) := rfl

/-- Members are kept as the entries of a table are. -/
theorem putMember_eq_store (key : String) (value : Json) (kept : List (String × Json)) :
    putMember key value kept = Table.store key value kept := by
  induction kept with
  | nil => rfl
  | cons first rest ih => simp only [putMember, Table.store, ih]

theorem sorted_concat (members : List (String × Json)) (key : String) (value : Json) :
    sorted (members ++ [(key, value)]) = Table.store key value (sorted members) := by
  rw [← putMember_eq_store, sorted, List.foldl_append]
  rfl

theorem ascending_sorted (members : List (String × Json)) :
    Ascending ((sorted members).map Prod.fst) := by
  rw [Ascending, List.pairwise_map]
  induction members using List.reverseRecOn with
  | nil => exact .nil
  | append_singleton members last ih =>
      rw [sorted_concat]
      exact Table.ascending_store ih

theorem mem_of_mem_sorted {member : String × Json} (inside : member ∈ sorted members) :
    member ∈ members := by
  induction members using List.reverseRecOn with
  | nil => exact inside
  | append_singleton members last ih =>
      rw [sorted_concat] at inside
      rcases Table.mem_store inside with rfl | early
      · simp
      · exact List.mem_append_left _ (ih early)

theorem store_last (above : ∀ member ∈ kept, member.1 < key) :
    Table.store key value kept = kept ++ [(key, value)] := by
  induction kept with
  | nil => rfl
  | cons first rest ih =>
      have before := above first (by simp)
      have notBefore : ¬ key < first.1 := String.lt_asymm before
      have other : first.1 ≠ key := fun same => String.lt_irrefl _ (same ▸ before)
      simp only [Table.store, notBefore, other, if_false, List.cons_append]
      rw [ih fun member inside => above member (List.mem_cons_of_mem _ inside)]

/-- Members that are in their order stay as they are. -/
theorem sorted_of_ascending (ascending : Ascending (members.map Prod.fst)) :
    sorted members = members := by
  rw [Ascending, List.pairwise_map] at ascending
  induction members using List.reverseRecOn with
  | nil => rfl
  | append_singleton members last ih =>
      obtain ⟨early, _, above⟩ := List.pairwise_append.mp ascending
      rw [sorted_concat, ih early]
      exact store_last fun member inside => above member inside last (by simp)

end Members

/-- A value made of null, booleans, integers of 64 bits, texts, arrays and objects. -/
inductive Built : Json → Prop where
  | null : Built .null
  | bool (value : Bool) : Built (.bool value)
  | integer {value : Int} (least : -2 ^ 63 ≤ value) (greatest : value < 2 ^ 64) :
      Built (.number (.int value))
  | string (value : String) : Built (.string value)
  | array {items : List Json} (built : ∀ item ∈ items, Built item) : Built (.array items)
  | object {members : List (String × Json)} (built : ∀ member ∈ members, Built member.2) :
      Built (ofMembers members)

section Spreading

variable {value item : Json} {items : List Json} {members : List (String × Json)} {depth : Nat}

theorem isGap_nil : IsGap [] := by simp [IsGap]

theorem isGap_lineBreak (depth : Nat) : IsGap (lineBreak depth) := by
  intro c inside
  rcases List.mem_cons.mp inside with rfl | blank
  · rfl
  · rw [List.eq_of_mem_replicate blank]
    rfl

/-- A value at the start of its line is spelled by its spread form. -/
def Spread (depth : Nat) (value : Json) : Prop :=
  Spells Ascending (spread depth value) (.value value)

theorem spells_items {back : List Char} (behind : IsGap back) (first : Spread depth item)
    (rest : ∀ item ∈ items, Spread depth item) :
    Spells Ascending (lineBreak depth ++ spread depth item ++ spreadItems depth items ++ back)
      (.elements (item :: items)) := by
  induction items generalizing item with
  | nil =>
      rw [spreadItems, List.append_nil]
      exact .lastElement (.element (isGap_lineBreak depth) first behind)
  | cons next others ih =>
      obtain ⟨here, later⟩ := List.forall_mem_cons.mp rest
      have element := Spells.element (isGap_lineBreak depth) first isGap_nil
      have whole := Spells.nextElement element (ih here later)
      simpa only [spreadItems, List.append_nil, List.append_assoc, List.cons_append] using whole

theorem spells_member {back : List Char} (behind : IsGap back) (key : String)
    (valued : Spread depth value) :
    Spells Ascending
      (lineBreak depth ++ quoted key.toList ++ ':' :: ' ' :: spread depth value ++ back)
      (.member key value) := by
  have blank : IsGap [' '] := by simp [IsGap, isGap]
  have element := Spells.element blank valued behind
  have whole := Spells.member (isGap_lineBreak depth) (spellsString_quoted key) isGap_nil element
  simpa only [List.append_nil, List.append_assoc, List.cons_append, List.nil_append] using whole

theorem spells_members {back : List Char} (behind : IsGap back) (key : String)
    (first : Spread depth value) (rest : ∀ member ∈ members, Spread depth member.2) :
    Spells Ascending
      (lineBreak depth ++ quoted key.toList ++ ':' :: ' ' :: spread depth value ++
        spreadMembers depth members ++ back)
      (.members ((key, value) :: members)) := by
  induction members generalizing key value with
  | nil =>
      rw [spreadMembers, List.append_nil]
      exact .lastMember (spells_member behind key first)
  | cons next others ih =>
      obtain ⟨here, later⟩ := List.forall_mem_cons.mp rest
      have member := spells_member isGap_nil key first
      have whole := Spells.nextMember member (ih next.1 here later)
      simpa only [spreadMembers, List.append_nil, List.append_assoc, List.cons_append] using whole

theorem spells_array (spelled : ∀ item ∈ items, Spread (depth + 1) item) :
    Spread depth (.array items) := by
  cases items with
  | nil => exact .emptyArray isGap_nil
  | cons item rest =>
      obtain ⟨first, others⟩ := List.forall_mem_cons.mp spelled
      have whole := Spells.array (spells_items (isGap_lineBreak depth) first others)
      simpa only [Spread, spread, List.append_assoc, List.cons_append] using whole

theorem spells_object (ascending : Ascending (members.map Prod.fst))
    (spelled : ∀ member ∈ members, Spread (depth + 1) member.2) :
    Spread depth (.object members) := by
  cases members with
  | nil => exact .emptyObject isGap_nil
  | cons member rest =>
      obtain ⟨first, others⟩ := List.forall_mem_cons.mp spelled
      have inner := spells_members (isGap_lineBreak depth) member.1 first others
      have whole := Spells.object inner ascending
      rw [ofMembers_eq, sorted_of_ascending ascending] at whole
      simpa only [Spread, spread, List.append_assoc, List.cons_append] using whole

/-- At every depth the spread form of a value spells the value. -/
theorem spread_spells (built : Built value) (depth : Nat) : Spread depth value := by
  induction built generalizing depth with
  | null => exact .nullWord
  | bool value =>
      cases value with
      | true => exact .trueWord
      | false => exact .falseWord
  | integer least greatest =>
      obtain ⟨spelling, spelled, known⟩ := spells_integer least greatest
      exact .number spelled known
  | string value => exact .string (spellsString_quoted value)
  | array _ ih => exact spells_array fun item inside => ih item inside (depth + 1)
  | object _ ih =>
      rw [ofMembers_eq]
      exact spells_object (ascending_sorted _) fun member inside =>
        ih member (mem_of_mem_sorted inside) (depth + 1)

theorem spells_render (built : Built value) :
    Spells Ascending value.render.toList (.element value) := by
  have whole := Spells.element isGap_nil (spread_spells built 0) isGap_nil
  simpa only [render, String.toList_ofList, List.nil_append, List.append_nil] using whole

/-- The text of a value is JSON that denotes this value and no other, the keys in ascending order.
So values with one text are equal. -/
theorem render_faithful (built : Built value) :
    Spells Ascending value.render.toList (.element value) ∧
      (∀ other, Denotes value.render other ↔ other = value) ∧
      read? value.render = some value ∧
      ∀ other, Built other → (other.render = value.render ↔ other = value) := by
  have ordered := spells_render built
  have denotes : Denotes value.render value := ordered.mono fun _ _ => trivial
  refine ⟨ordered, fun other => ⟨fun second => second.unique denotes, ?_⟩,
    read?_of_denotes denotes, fun other another => ⟨fun same => ?_, fun same => by rw [same]⟩⟩
  · rintro rfl
    exact denotes
  · have second : Denotes other.render other := (spells_render another).mono fun _ _ => trivial
    rw [same] at second
    exact second.unique denotes

theorem nested_text_faithful :
    let value := ofMembers
      [("b", .array [.number (.int (-2)), .null]), ("a", .string "\"\n\x01"), ("", ofMembers [])]
    value.render = "\x7b\n  \"\": \x7b\x7d,\n  \"a\": \"\\\"\\n\\u0001\",\n" ++
        "  \"b\": [\n    -2,\n    null\n  ]\n\x7d" ∧
      Denotes value.render value ∧ read? value.render = some value ∧
      value.render ≠ (array []).render := by
  intro value
  have built : Built value := by
    refine .object (List.forall_mem_cons.mpr ⟨.array (List.forall_mem_cons.mpr ⟨?_, ?_⟩),
      List.forall_mem_cons.mpr ⟨.string _, List.forall_mem_singleton.mpr (.object (by simp))⟩⟩)
    · exact .integer (by decide) (by decide)
    · exact List.forall_mem_singleton.mpr .null
  obtain ⟨_, denotes, read, alone⟩ := render_faithful built
  refine ⟨by decide +kernel, (denotes value).mpr rfl, read, fun same => ?_⟩
  have empty : Built (array []) := .array (by simp)
  have equal : array [] = .object _ := (alone _ empty).mp same.symm
  cases equal

end Spreading

end LiveSelector.Json
